import Tabular.Filter
import Tabular.Proofs.Condition.LetterCase

set_option autoImplicit false

/-! # Keywords in any case

A reader of conditions looks at a word in two ways: which keyword it spells, for which case does not
matter, and where it names a column, which keeps the case it is written in. So off tokens that are the
same up to case it reads conditions that are the same up to the case of their names (`lowerNames`) and
leaves tokens that are again the same up to case, or else it has faults of one kind with both
(`Reader.IgnoresCase`). This goes from the parts of a reader to the whole, and with the scanner it
gives the same of texts (`Filter.compile_ignoring_case`).
-/

namespace Tabular

namespace Condition

/-! ## Conditions and tokens up to case -/

/-- A condition with the names of its columns in lower case. -/
def lowerNames : Condition → Condition
  | or p q => or p.lowerNames q.lowerNames
  | and p q => and p.lowerNames q.lowerNames
  | not p => not p.lowerNames
  | compare r a b => compare r a.lowerNames b.lowerNames
  | between negated target low high =>
    between negated target.lowerNames low.lowerNames high.lowerNames
  | like ignoreCase negated value wildcard =>
    like ignoreCase negated value.lowerNames wildcard.lowerNames
  | matching ignoreCase value pattern => matching ignoreCase value.lowerNames pattern.lowerNames
  | column name => column (asciiLower name)
  | number v => number v
  | text s => text s

/-- A keyword is spelled in any case. -/
theorem Token.keyword?_lowered (t : Token) : t.lowered.keyword? = t.keyword? := by
  obtain ⟨lexeme, text, offset⟩ := t
  cases lexeme with
  | word w =>
      show Keyword.ofWord? (asciiLower w) = Keyword.ofWord? w
      simp only [Keyword.ofWord?, sameWord_asciiLower]
  | _ => rfl

/-- Lexemes that are the same up to case are two words, or else the same. -/
theorem Lexeme.words_or_eq {l m : Lexeme} (h : l.lowered = m.lowered) :
    (∃ w x : String, l = .word w ∧ m = .word x ∧ asciiLower w = asciiLower x) ∨
      l = m ∧ ∀ w, l ≠ .word w := by
  cases l <;> cases m <;> simp_all [lowered]

section

variable {t u : Token} (h : t.lowered = u.lowered)
include h

theorem Token.keyword?_congr_lowered : t.keyword? = u.keyword? := by
  rw [← t.keyword?_lowered, h, u.keyword?_lowered]

theorem Token.congr_lowered : t.lexeme.lowered = u.lexeme.lowered ∧
    asciiLower t.text = asciiLower u.text ∧ t.offset = u.offset := by
  rw [Token.lowered, Token.lowered] at h
  exact Token.mk.inj h

end

/-- What is read is the same up to case, and so is what is left. -/
def SameReading (x y : Condition × List Token) : Prop :=
  x.1.lowerNames = y.1.lowerNames ∧ x.2.map Token.lowered = y.2.map Token.lowered

/-- A reader **ignores case** when it reads the same, up to case, off tokens that are the same up to
case, or else has faults of one kind with both. -/
def Reader.IgnoresCase (read : Reader) : Prop :=
  ∀ ts us : List Token, ts.map Token.lowered = us.map Token.lowered →
    Agree Fault.SameKind SameReading (read ts) (read us)

theorem place_congr_lowered (textEnd : Nat) {ts us : List Token}
    (h : ts.map Token.lowered = us.map Token.lowered) : place textEnd ts = place textEnd us := by
  cases ts with
  | nil =>
      obtain rfl : us = [] := List.map_eq_nil_iff.mp h.symm
      rfl
  | cons t ts =>
      obtain ⟨u, us, rfl, hu, -⟩ := List.map_eq_cons_iff.mp h.symm
      exact (Token.congr_lowered hu.symm).2.2

/-! ## Operands -/

variable {textEnd : Nat}

theorem asciiLower_joinName (name part : String) :
    asciiLower (joinName name part) = joinName (asciiLower name) (asciiLower part) := by
  have hblank : asciiLower " " = " " := rfl
  by_cases h : name = ""
  · rw [joinName, if_pos h, joinName, if_pos (asciiLower_eq_empty.mpr h)]
  · rw [joinName, if_neg h, joinName, if_neg (mt asciiLower_eq_empty.mp h), asciiLower_append,
      asciiLower_append, hblank]

/-- A name in braces is read up to case. -/
theorem agree_readName (opened : Nat) {ts us : List Token}
    (h : ts.map Token.lowered = us.map Token.lowered) {name name' : String}
    (hname : asciiLower name = asciiLower name') :
    Agree Fault.SameKind SameReading (readName textEnd opened name ts)
      (readName textEnd opened name' us) := by
  induction ts generalizing us name name' with
  | nil =>
      obtain rfl : us = [] := List.map_eq_nil_iff.mp h.symm
      exact ⟨rfl, rfl⟩
  | cons t ts ih =>
      obtain ⟨u, us, rfl, hu, hus⟩ := List.map_eq_cons_iff.mp h.symm
      obtain ⟨hlexemes, htext, hoffset⟩ := Token.congr_lowered hu.symm
      have htexts : asciiLower (joinName name t.text) = asciiLower (joinName name' u.text) := by
        rw [asciiLower_joinName, asciiLower_joinName, hname, htext]
      -- a name is complete in both cases or in none
      have hnames : name = "" ↔ name' = "" := by
        rw [← asciiLower_eq_empty, hname, asciiLower_eq_empty]
      rw [readName, readName]
      obtain ⟨w, x, ht, hx, -⟩ | ⟨hlexeme, hword⟩ := Lexeme.words_or_eq hlexemes
      · rw [ht, hx]
        exact ih hus.symm htexts
      · rw [← hlexeme]
        cases hl : t.lexeme with
        | word w => exact absurd hl (hword w)
        | closeBrace =>
            refine .ite hnames (fun _ => ⟨rfl, rfl⟩) fun _ => ⟨?_, hus.symm⟩
            exact congrArg column hname
        | openBrace => exact ⟨rfl, congrArg some hoffset⟩
        | quoted s =>
            refine ih hus.symm ?_
            rw [asciiLower_joinName, asciiLower_joinName, hname]
        | _ => exact ih hus.symm htexts

/-- Parentheses are closed in both cases or in none. -/
theorem agree_closing (p q : Condition) (rest rest' : List Token) :
    SameReading (p, rest) (q, rest') → Agree Fault.SameKind SameReading
      (match rest with
        | ⟨.closing, _, _⟩ :: rest => pure (p, rest)
        | _ => throw (.placed (.expectedClosing (found rest)) (place textEnd rest)) :
        Except Fault (Condition × List Token))
      (match rest' with
        | ⟨.closing, _, _⟩ :: rest' => pure (q, rest')
        | _ => throw (.placed (.expectedClosing (found rest')) (place textEnd rest'))) := by
  rintro ⟨hpq, hrest⟩
  have hblamed := congrArg some (place_congr_lowered textEnd hrest)
  cases rest with
  | nil =>
      obtain rfl : rest' = [] := List.map_eq_nil_iff.mp hrest.symm
      exact ⟨rfl, rfl⟩
  | cons t left =>
      obtain ⟨u, left', rfl, hu, hleft⟩ := List.map_eq_cons_iff.mp hrest.symm
      obtain ⟨l, s, o⟩ := t
      obtain ⟨m, s', o'⟩ := u
      have hlexemes : l.lowered = m.lowered := (Token.congr_lowered hu.symm).1
      obtain ⟨w, x, rfl, rfl, -⟩ | ⟨rfl, -⟩ := Lexeme.words_or_eq hlexemes
      · exact ⟨rfl, hblamed⟩
      · cases l with
        | closing => exact ⟨hpq, hleft.symm⟩
        | _ => exact ⟨rfl, hblamed⟩

/-- Operands are read up to case when what is in parentheses is. -/
theorem ignoresCase_readOperand {inner : Option Reader}
    (hinner : ∀ read ∈ inner, Reader.IgnoresCase read) :
    Reader.IgnoresCase (readOperand textEnd inner) := by
  intro ts us h
  cases ts with
  | nil =>
      obtain rfl : us = [] := List.map_eq_nil_iff.mp h.symm
      exact ⟨rfl, rfl⟩
  | cons t ts =>
      obtain ⟨u, us, rfl, hu, hus⟩ := List.map_eq_cons_iff.mp h.symm
      obtain ⟨hlexemes, -, hoffset⟩ := Token.congr_lowered hu.symm
      have hblamed := congrArg some hoffset
      unfold readOperand
      dsimp only
      obtain ⟨w, x, ht, hx, hwords⟩ | ⟨hlexeme, hword⟩ := Lexeme.words_or_eq hlexemes
      · rw [ht, hx, Token.keyword?_congr_lowered hu]
        dsimp only
        split
        · exact ⟨rfl, hus.symm⟩
        · exact ⟨rfl, hus.symm⟩
        · exact ⟨rfl, hus.symm⟩
        · exact ⟨congrArg column hwords, hus.symm⟩
      · rw [← hlexeme]
        cases hl : t.lexeme with
        | word w => exact absurd hl (hword w)
        | number v => exact ⟨rfl, hus.symm⟩
        | quoted s => exact ⟨rfl, hus.symm⟩
        | openBrace =>
            rw [hoffset]
            exact agree_readName u.offset hus.symm rfl
        | opening =>
            -- what is inside leaves tokens that are the same up to case, so it is closed in both
            cases inner with
            | none => exact ⟨rfl, hblamed⟩
            | some read =>
                refine (hinner read rfl _ _ hus.symm).bind fun x y hxy => ?_
                exact agree_closing x.1 y.1 x.2 y.2 hxy
        | _ => exact ⟨rfl, hblamed⟩

/-! ## Comparisons -/

theorem agree_expectKeyword (k : Keyword) {ts us : List Token}
    (h : ts.map Token.lowered = us.map Token.lowered) :
    Agree Fault.SameKind (fun ts us => ts.map Token.lowered = us.map Token.lowered)
      (expectKeyword textEnd k ts) (expectKeyword textEnd k us) := by
  cases ts with
  | nil =>
      obtain rfl : us = [] := List.map_eq_nil_iff.mp h.symm
      exact ⟨rfl, rfl⟩
  | cons t ts =>
      obtain ⟨u, us, rfl, hu, hus⟩ := List.map_eq_cons_iff.mp h.symm
      rw [expectKeyword, expectKeyword, Token.keyword?_congr_lowered hu]
      exact .ite Iff.rfl (fun _ => hus.symm) fun _ =>
        ⟨rfl, congrArg some (Token.congr_lowered hu.symm).2.2⟩

section

variable {operand : Reader} (hoperand : Reader.IgnoresCase operand)
include hoperand

theorem agree_readBounds (negated : Bool) {p q : Condition} (hpq : p.lowerNames = q.lowerNames)
    {ts us : List Token} (h : ts.map Token.lowered = us.map Token.lowered) :
    Agree Fault.SameKind SameReading (readBounds textEnd operand negated p ts)
      (readBounds textEnd operand negated q us) := by
  refine (hoperand _ _ h).bind fun low low' hlow => ?_
  refine (agree_expectKeyword .and hlow.2).bind fun ts us hrest => ?_
  refine (hoperand _ _ hrest).bind fun high high' hhigh => ⟨?_, hhigh.2⟩
  show lowerNames (.between _ _ _ _) = lowerNames (.between _ _ _ _)
  rw [lowerNames, lowerNames, hpq, hlow.1, hhigh.1]

/-- One more operand completes what is asked up to case. -/
theorem agree_completed {build build' : Condition → Condition}
    (hbuild : ∀ p q : Condition, p.lowerNames = q.lowerNames →
      (build p).lowerNames = (build' q).lowerNames)
    {ts us : List Token} (h : ts.map Token.lowered = us.map Token.lowered) :
    Agree Fault.SameKind SameReading (operand ts >>= fun x => pure (build x.1, x.2))
      (operand us >>= fun x => pure (build' x.1, x.2)) :=
  (hoperand _ _ h).bind fun _ _ hxy => ⟨hbuild _ _ hxy.1, hxy.2⟩

theorem ignoresCase_readComparison : Reader.IgnoresCase (readComparison textEnd operand) := by
  intro ts us h
  refine (hoperand _ _ h).bind fun x y hxy => ?_
  obtain ⟨p, rest⟩ := x
  obtain ⟨q, rest'⟩ := y
  obtain ⟨hpq, hrest⟩ : p.lowerNames = q.lowerNames ∧
    rest.map Token.lowered = rest'.map Token.lowered := hxy
  cases rest with
  | nil =>
      obtain rfl : rest' = [] := List.map_eq_nil_iff.mp hrest.symm
      exact ⟨hpq, rfl⟩
  | cons t after =>
      obtain ⟨u, after', rfl, hu, hafter⟩ := List.map_eq_cons_iff.mp hrest.symm
      have hlike : ∀ (ignoreCase negated : Bool) {ts us : List Token},
          ts.map Token.lowered = us.map Token.lowered → Agree Fault.SameKind SameReading
            (operand ts >>= fun x => pure (.like ignoreCase negated p x.1, x.2))
            (operand us >>= fun x => pure (.like ignoreCase negated q x.1, x.2)) :=
        fun ignoreCase negated => agree_completed hoperand fun a b hab => by
          rw [lowerNames, lowerNames, hpq, hab]
      obtain ⟨w, x, ht, hx, hwords⟩ | ⟨hlexeme, hword⟩ :=
        Lexeme.words_or_eq (Token.congr_lowered hu.symm).1
      · -- a word is a keyword or ends the comparison
        dsimp only
        rw [ht, hx, Token.keyword?_congr_lowered hu]
        generalize t.keyword? = keyword
        match keyword with
        | some .between => exact agree_readBounds hoperand false hpq hafter.symm
        | some .like => exact hlike false false hafter.symm
        | some .ilike => exact hlike true false hafter.symm
        | some .not =>
            dsimp only
            cases after with
            | nil =>
                obtain rfl : after' = [] := List.map_eq_nil_iff.mp hafter
                exact ⟨rfl, rfl⟩
            | cons v afterNot =>
                obtain ⟨v', afterNot', rfl, hv, hafterNot⟩ := List.map_eq_cons_iff.mp hafter
                dsimp only
                rw [Token.keyword?_congr_lowered hv]
                split
                · exact agree_readBounds hoperand true hpq hafterNot.symm
                · exact hlike true true hafterNot.symm
                · exact (agree_expectKeyword .like hafter.symm).bind fun _ _ hrest =>
                    hlike false true hrest
        | some .and | some .or | some .true | some .false | some .null | none =>
            exact ⟨hpq, hrest⟩
      · -- any other lexeme is the same in both
        have hnone : ∀ t : Token, (∀ w, t.lexeme ≠ .word w) → t.keyword? = none := by
          intro t ht
          rw [Token.keyword?]
          split
          · next w hw => exact absurd hw (ht w)
          · rfl
        dsimp only
        rw [hnone t hword, hnone u (hlexeme ▸ hword), ← hlexeme]
        cases hl : t.lexeme with
        | word w => exact absurd hl (hword w)
        | matching ignoreCase =>
            refine agree_completed hoperand (fun a b hab => ?_) hafter.symm
            rw [lowerNames, lowerNames, hpq, hab]
        | relation r =>
            refine agree_completed hoperand (fun a b hab => ?_) hafter.symm
            rw [lowerNames, lowerNames, hpq, hab]
        | _ => exact ⟨hpq, hrest⟩

end

/-! ## Logical operators -/

section

variable {word : Keyword} {operand : Reader} (hoperand : Reader.IgnoresCase operand)
include hoperand

/-- Operands with a keyword between them are read up to case, however many there may be. -/
theorem agree_readOperands {budget budget' ts us : List Token}
    (hbudget : budget.length = budget'.length)
    (h : ts.map Token.lowered = us.map Token.lowered) :
    Agree Fault.SameKind
      (fun x y => x.1.1.lowerNames = y.1.1.lowerNames ∧
        x.1.2.map lowerNames = y.1.2.map lowerNames ∧
        x.2.map Token.lowered = y.2.map Token.lowered)
      (readOperands word operand budget ts) (readOperands word operand budget' us) := by
  induction budget generalizing budget' ts us with
  | nil =>
      obtain rfl : budget' = [] := List.eq_nil_of_length_eq_zero hbudget.symm
      rw [readOperands_nil, readOperands_nil]
      exact (hoperand _ _ h).bind fun x y hxy => ⟨hxy.1, rfl, hxy.2⟩
  | cons b budget ih =>
      obtain ⟨b', budget', rfl⟩ := List.exists_cons_of_length_eq_add_one hbudget.symm
      rw [readOperands_cons, readOperands_cons]
      refine (hoperand _ _ h).bind fun x y hxy => ?_
      obtain ⟨p, rest⟩ := x
      obtain ⟨q, rest'⟩ := y
      obtain ⟨hpq, hrest⟩ : p.lowerNames = q.lowerNames ∧
        rest.map Token.lowered = rest'.map Token.lowered := hxy
      cases rest with
      | nil =>
          obtain rfl : rest' = [] := List.map_eq_nil_iff.mp hrest.symm
          exact ⟨hpq, rfl, rfl⟩
      | cons t after =>
          obtain ⟨u, after', rfl, hu, hafter⟩ := List.map_eq_cons_iff.mp hrest.symm
          dsimp only
          rw [Token.keyword?_congr_lowered hu]
          refine .ite Iff.rfl (fun _ => ?_) fun _ => ⟨hpq, rfl, hrest⟩
          refine (ih (Nat.succ.inj hbudget) hafter.symm).bind fun x y hxy => ?_
          obtain ⟨hfirst, hothers, hleft⟩ := hxy
          exact ⟨hpq, congrArg₂ List.cons hfirst hothers, hleft⟩

theorem ignoresCase_readChain (join : Condition → Condition → Condition)
    (hjoin : ∀ p q : Condition, (join p q).lowerNames = join p.lowerNames q.lowerNames) :
    Reader.IgnoresCase (readChain word join operand) := by
  intro ts us h
  have hlength : ts.length = us.length := by simpa using congrArg List.length h
  refine (agree_readOperands hoperand hlength h).bind fun x y hxy => ?_
  obtain ⟨hfirst, hothers, hleft⟩ := hxy
  refine ⟨?_, hleft⟩
  -- balancing looks at the number of operands only, which is the same
  show lowerNames (balance join _ _) = lowerNames (balance join _ _)
  rw [map_balance hjoin, map_balance hjoin, hfirst, hothers]

end

theorem ignoresCase_readLogic {negation : Reader} (hnegation : Reader.IgnoresCase negation) :
    Reader.IgnoresCase (readLogic negation) :=
  ignoresCase_readChain (ignoresCase_readChain hnegation .and fun _ _ => rfl) .or fun _ _ => rfl

/-- Negations and comparisons are read up to case, by induction on the levels that are left. -/
theorem ignoresCase_readNegation (levels : Nat) :
    Reader.IgnoresCase (readNegation textEnd levels) := by
  have hcomparison : ∀ inner : Option Reader, (∀ read ∈ inner, Reader.IgnoresCase read) →
      Reader.IgnoresCase (readComparison textEnd (readOperand textEnd inner)) :=
    fun inner hinner => ignoresCase_readComparison (ignoresCase_readOperand hinner)
  have hlast := hcomparison none fun _ h => nomatch h
  induction levels with
  | zero =>
      intro ts us h
      unfold readNegation
      cases ts with
      | nil =>
          obtain rfl : us = [] := List.map_eq_nil_iff.mp h.symm
          exact hlast _ _ h
      | cons t ts =>
          obtain ⟨u, us, rfl, hu, -⟩ := List.map_eq_cons_iff.mp h.symm
          dsimp only
          rw [Token.keyword?_congr_lowered hu]
          exact .ite Iff.rfl
            (fun _ => ⟨rfl, congrArg some (Token.congr_lowered hu.symm).2.2⟩) fun _ => hlast _ _ h
  | succ levels ih =>
      intro ts us h
      unfold readNegation
      cases ts with
      | nil =>
          obtain rfl : us = [] := List.map_eq_nil_iff.mp h.symm
          exact hlast _ _ h
      | cons t ts =>
          obtain ⟨u, us, rfl, hu, hus⟩ := List.map_eq_cons_iff.mp h.symm
          dsimp only
          rw [Token.keyword?_congr_lowered hu]
          refine .ite Iff.rfl (fun _ => ?_) fun _ => ?_
          · exact (ih _ _ hus.symm).bind fun x y hxy => ⟨congrArg not hxy.1, hxy.2⟩
          · refine hcomparison _ (fun read hread => ?_) _ _ h
            obtain rfl := Option.some.inj hread
            exact ignoresCase_readLogic ih

/-- **Tokens that are the same up to case** write the same condition up to the case of its names, or
have faults of one kind. -/
theorem agree_ofTokens {ts us : List Token} (h : ts.map Token.lowered = us.map Token.lowered) :
    Agree Fault.SameKind (fun p q => p.lowerNames = q.lowerNames) (ofTokens ts textEnd)
      (ofTokens us textEnd) := by
  refine (ignoresCase_readLogic (ignoresCase_readNegation nestingLimit) _ _ h).bind fun x y hxy => ?_
  obtain ⟨p, rest⟩ := x
  obtain ⟨q, rest'⟩ := y
  obtain ⟨hpq, hrest⟩ : p.lowerNames = q.lowerNames ∧
    rest.map Token.lowered = rest'.map Token.lowered := hxy
  cases rest with
  | nil =>
      obtain rfl : rest' = [] := List.map_eq_nil_iff.mp hrest.symm
      exact hpq
  | cons t left =>
      obtain ⟨u, left', rfl, hu, -⟩ := List.map_eq_cons_iff.mp hrest.symm
      exact ⟨rfl, congrArg some (Token.congr_lowered hu.symm).2.2⟩

/-! ## Texts -/

theorem agree_ofText {s t : List Char} (h : lowered s = lowered t) :
    Agree Fault.SameKind (fun p q => p.lowerNames = q.lowerNames) (ofText s) (ofText t) := by
  refine (agree_scan 0 h).bind fun ts us htokens => ?_
  rw [byteLength_congr_toLower (toLower_congr_lowered h)]
  exact agree_ofTokens htokens

end Condition

namespace Filter

open Condition (lowered)

/-- **Keywords are read in any case.** Texts that differ in nothing but the case of ASCII letters
outside of quoted texts both compile, to conditions that differ in nothing but the case of the names
of columns, or are both at fault, in the same phase and at the same place. -/
theorem compile_ignoring_case {s t : String} (h : lowered s.toList = lowered t.toList) :
    Agree (fun fault fault' => fault.cause.phase = fault'.cause.phase ∧
        fault.offset = fault'.offset)
      (fun f g => f.condition.lowerNames = g.condition.lowerNames) (compile s) (compile t) :=
  (Condition.agree_ofText h).bind fun _ _ hpq => hpq

/-- Two spellings of a condition, with a keyword for the name of a column. -/
def recasedSample : String × String :=
  ("not \x7bLike É\x7d >= 1e2 AND b like 'Kx%'", "NOT \x7blike É\x7d >= 1E2 and B LIKE 'Kx%'")

/-- Two spellings of a text that ends too early. -/
def recasedFaultSample : String × String := ("a Not BETWEEN 'A' or", "A nOT between 'A' OR")

theorem compile_ignoring_case_recasedSample :
    (lowered recasedSample.1.toList = lowered recasedSample.2.toList ∧
      Agree (fun fault fault' => fault.cause.phase = fault'.cause.phase ∧
          fault.offset = fault'.offset)
        (fun f g => f.condition.lowerNames = g.condition.lowerNames)
        (compile recasedSample.1) (compile recasedSample.2)) ∧
    lowered recasedFaultSample.1.toList = lowered recasedFaultSample.2.toList ∧
      Agree (fun fault fault' => fault.cause.phase = fault'.cause.phase ∧
          fault.offset = fault'.offset)
        (fun f g => f.condition.lowerNames = g.condition.lowerNames)
        (compile recasedFaultSample.1) (compile recasedFaultSample.2) := by
  have hsame : lowered recasedSample.1.toList = lowered recasedSample.2.toList := by
    decide +kernel
  have hsame' : lowered recasedFaultSample.1.toList = lowered recasedFaultSample.2.toList := by
    decide +kernel
  exact ⟨⟨hsame, compile_ignoring_case hsame⟩, hsame', compile_ignoring_case hsame'⟩

end Filter

end Tabular
