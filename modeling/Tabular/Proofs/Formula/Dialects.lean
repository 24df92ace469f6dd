import Tabular.Proofs.Formula.Compile
import Tabular.Proofs.Formula.Embedding

set_option autoImplicit false

/-! # The two dialects

Arithmetic is the extended dialect without comparisons and logical operators. The yards of the two
dialects do the same with every token but one of these operators, which the arithmetic yard never
takes. So a text without them compiles to the same steps in both dialects. In a text that compiles
with some of them the arithmetic yard comes as far as the first one, and finds it where an operator
has to stand.

Which of the operators the text of a formula has can be seen from its steps: every operator of a
phrase is a step of its postfix order.
-/

namespace Tabular.Formula

/-- Whether a lexeme is an operator that arithmetic lacks. -/
def Lexeme.isExtended : Lexeme → Bool
  | operator o => o.isExtended
  | _ => false

/-- Whether a step is an operator that arithmetic lacks. -/
def Step.isExtended : Step → Bool
  | operator o => o.isExtended
  | _ => false

theorem Lexeme.exists_operator {lexeme : Lexeme} (h : lexeme.isExtended = true) :
    ∃ o : Operator, lexeme = .operator o ∧ o.isExtended = true := by
  cases lexeme with
  | operator o => exact ⟨o, rfl, h⟩
  | _ => cases h

/-! ## Operators of phrases -/

mutual

/-- **The extended operators of a phrase are those of its postfix order.** The signs, which are no
operators there or subtractions, are not among them. -/
theorem any_isExtended_steps {d : Dialect} : ∀ {l : Nat} {ts : List Token} {a : Tree},
    Derives d l ts a → a.steps.any Step.isExtended = ts.any (·.lexeme.isExtended)
  | _, _, _, .number h => by simp [Tree.steps, Step.isExtended, Lexeme.isExtended, h]
  | _, _, _, .column h => by simp [Tree.steps, Step.isExtended, Lexeme.isExtended, h]
  | _, _, _, .parens hopened ha hclosed => by
      simp [Tree.steps, Lexeme.isExtended, any_isExtended_steps ha, hopened, hclosed]
  | _, _, _, .call hword hopened hall _ hclosed => by
      simp [Tree.steps, Step.isExtended, Lexeme.isExtended, any_isExtended_stepsAll hall, hword,
        hopened, hclosed]
  | _, _, _, .power ha hcaret hb => by
      simp [Tree.steps, Step.isExtended, Lexeme.isExtended, any_isExtended_steps ha,
        any_isExtended_steps hb, hcaret, Bool.or_comm]
  | _, _, _, .plus hsign ha => by
      rw [Tree.steps, any_isExtended_steps ha, List.any_cons, hsign]
      rfl
  | _, sign :: _, _, .minus hsign ha => by
      rw [Tree.steps, List.any_append, List.any_cons, any_isExtended_steps ha,
        List.any_cons (a := sign), hsign]
      exact Bool.or_false _
  | _, _, _, .binary _ _ _ ha hsign hb => by
      simp [Tree.steps, Step.isExtended, Lexeme.isExtended, any_isExtended_steps ha,
        any_isExtended_steps hb, hsign, Bool.or_comm]
  | _, _, _, .tighter h => any_isExtended_steps h

theorem any_isExtended_stepsAll {d : Dialect} : ∀ {ts : List Token} {arguments : List Tree},
    DerivesAll d ts arguments →
      (Tree.stepsAll arguments).any Step.isExtended = ts.any (·.lexeme.isExtended)
  | _, _, .last h => by simp [Tree.stepsAll, any_isExtended_steps h]
  | _, _, .more h hcomma hrest => by
      simp [Tree.stepsAll, Lexeme.isExtended, any_isExtended_steps h,
        any_isExtended_stepsAll hrest, hcomma]

end

/-! ## Both yards -/

namespace Yard

variable {y z : Yard} {t : Token} {ts : List Token}

/-- A token that is no extended operator is fed alike in all dialects. -/
theorem feed_congr (d e : Dialect) (ht : t.lexeme.isExtended = false) :
    feed d y t = feed e y t := by
  cases hlex : t.lexeme with
  | operator o =>
      rw [hlex] at ht
      have hadmits (d : Dialect) : d.admits o = true := by
        simp [Dialect.admits, show o.isExtended = false from ht]
      simp only [feed, hlex, pushOperator, hadmits]
  | _ => simp only [feed, hlex]

/-- Tokens without extended operators are fed alike in all dialects. -/
theorem run_congr (d e : Dialect) (h : ∀ t ∈ ts, t.lexeme.isExtended = false) :
    run d y ts = run e y ts := by
  induction ts generalizing y with
  | nil => rfl
  | cons t ts ih =>
      obtain ⟨ht, hts⟩ := List.forall_mem_cons.mp h
      rw [run, run, List.foldlM_cons, List.foldlM_cons, feed_congr d e ht]
      congr 1
      funext z
      exact ih hts

/-- Only where an operator has to stand is an extended operator taken. -/
theorem expecting_of_feed {d : Dialect} {o : Operator} (ht : t.lexeme = .operator o)
    (ho : o.isExtended = true) (h : feed d y t = .ok z) : y.expecting = .operator := by
  obtain ⟨output, waiting, expecting⟩ := y
  cases expecting with
  | operator => rfl
  | arguments f opened =>
      simp only [feed, ht] at h
      cases h
  | operand =>
      -- a sign is no extended operator
      simp only [feed, ht] at h
      rw [Operator.isExtended_iff] at ho
      cases o with
      | add | sub => simp at ho
      | _ => cases h

/-- The arithmetic yard says of an extended operator that it has none. -/
theorem feed_arithmetic {o : Operator} (ht : t.lexeme = .operator o) (ho : o.isExtended = true)
    (hy : y.expecting = .operator) :
    feed .arithmetic y t = .error (.placed (.unavailableOperator o.symbol) t.offset) := by
  have hadmits : Dialect.arithmetic.admits o = false := by
    rw [Dialect.admits, ho]
    rfl
  simp only [feed, ht, hy, pushOperator, operator_ne_operand, hadmits]
  rfl

/-- The arithmetic yard takes no extended operator. -/
theorem isExtended_of_feed_arithmetic (h : feed .arithmetic y t = .ok z) :
    t.lexeme.isExtended = false := by
  refine Bool.eq_false_iff.mpr fun ht => ?_
  obtain ⟨o, hlex, ho⟩ := Lexeme.exists_operator ht
  rw [feed_arithmetic hlex ho (expecting_of_feed hlex ho h)] at h
  cases h

/-- What the arithmetic yard accepts has no extended operators. -/
theorem isExtended_of_accepts (h : Accepts .arithmetic y ts) :
    ∀ t ∈ ts, t.lexeme.isExtended = false := by
  induction ts generalizing y with
  | nil =>
      intro t ht
      cases ht
  | cons t ts ih =>
      obtain ⟨z, hz, haccepts⟩ := h.exists_feed
      exact List.forall_mem_cons.mpr ⟨isExtended_of_feed_arithmetic hz, ih haccepts⟩

/-- **Both yards go together up to the first extended operator**, which the arithmetic one does not
take. -/
theorem run_arithmetic_of_accepts {before after : List Token} {o : Operator}
    (h : Accepts .extended y (before ++ t :: after))
    (hbefore : ∀ u ∈ before, u.lexeme.isExtended = false) (ht : t.lexeme = .operator o)
    (ho : o.isExtended = true) : run .arithmetic y (before ++ t :: after) =
      .error (.placed (.unavailableOperator o.symbol) t.offset) := by
  induction before generalizing y with
  | nil =>
      obtain ⟨z, hz, -⟩ := h.exists_feed
      rw [List.nil_append, run, List.foldlM_cons,
        feed_arithmetic ht ho (expecting_of_feed ht ho hz)]
      rfl
  | cons u before ih =>
      obtain ⟨hu, hbefore⟩ := List.forall_mem_cons.mp hbefore
      obtain ⟨z, hz, haccepts⟩ := h.exists_feed
      rw [List.cons_append, run_cons _ ((feed_congr .arithmetic .extended hu).trans hz)]
      exact ih haccepts hbefore

end Yard

/-! ## Tokens -/

open Yard

section

variable {tokens : List Token} {length : Nat} {steps : List Step}

/-- Tokens that give steps are accepted. -/
theorem accepts_of_stepsOfTokens {d : Dialect} (h : stepsOfTokens d tokens length = .ok steps) :
    Accepts d start tokens := by
  obtain ⟨a, ha, -⟩ := exists_derives_of_ok h
  exact accepts_start_iff.mpr ⟨a, ha⟩

/-- The extended operators of some tokens are those of the steps that they give. -/
theorem any_isExtended_of_stepsOfTokens {d : Dialect}
    (h : stepsOfTokens d tokens length = .ok steps) :
    steps.any Step.isExtended = tokens.any (·.lexeme.isExtended) := by
  obtain ⟨a, ha, rfl⟩ := exists_derives_of_ok h
  exact any_isExtended_steps ha

/-- Tokens without extended operators give the same in all dialects. -/
theorem stepsOfTokens_congr (d e : Dialect) (h : ∀ t ∈ tokens, t.lexeme.isExtended = false) :
    stepsOfTokens d tokens length = stepsOfTokens e tokens length := by
  have hrun : run d start tokens = run e start tokens := run_congr d e h
  rw [run, run] at hrun
  rw [stepsOfTokens, stepsOfTokens, hrun]

/-- Tokens that give steps in the extended dialect are at fault as arithmetic at the first operator
that it lacks. -/
theorem stepsOfTokens_arithmetic {before after : List Token} {t : Token} {o : Operator}
    (h : stepsOfTokens .extended (before ++ t :: after) length = .ok steps)
    (hbefore : ∀ u ∈ before, u.lexeme.isExtended = false) (ht : t.lexeme = .operator o)
    (ho : o.isExtended = true) : stepsOfTokens .arithmetic (before ++ t :: after) length =
      .error (.placed (.unavailableOperator o.symbol) t.offset) := by
  have hrun := run_arithmetic_of_accepts (accepts_of_stepsOfTokens h) hbefore ht ho
  rw [run] at hrun
  rw [stepsOfTokens, hrun]
  rfl

end

/-! ## Texts -/

/-- An operator is read where its symbol is. -/
theorem Lexeme.symbol_isPrefix_of_read {c : Char} {rest : List Char} {o : Operator} {more : Nat}
    (h : Lexeme.read c rest = .ok (.operator o, more)) : o.symbol.toList <+: c :: rest := by
  unfold Lexeme.read at h
  dsimp only at h
  repeat' split at h
  all_goals cases h
  next hread => exact Operator.symbol_isPrefix_of_read? hread

/-- The **first extended operator** of a text, and its place: its symbol is there, it is one of the
tokens, and none of the operators that arithmetic lacks stands in front of it. -/
structure FirstExtended (text : List Char) (o : Operator) (offset : Nat) : Prop where
  isExtended : o.isExtended = true
  symbol : ∃ front back : List Char,
    text = front ++ (o.symbol.toList ++ back) ∧ byteLength front = offset
  first : ∃ tokens : List Token, Token.ofText text = .ok tokens ∧ ⟨.operator o, offset⟩ ∈ tokens ∧
    ∀ t ∈ tokens, t.lexeme.isExtended = true → offset ≤ t.offset

/-- The first token that is an operator which arithmetic lacks is the first one of the text. -/
theorem firstExtended_of_append {text : List Char} {before after : List Token} {t : Token}
    {o : Operator} (h : Token.ofText text = .ok (before ++ t :: after))
    (hbefore : ∀ u ∈ before, u.lexeme.isExtended = false) (ht : t.lexeme = .operator o)
    (ho : o.isExtended = true) : FirstExtended text o t.offset := by
  have hscan := Token.scan_of_ofText h
  have hmem : t ∈ before ++ t :: after := List.mem_append_right _ (List.mem_cons_self ..)
  refine ⟨ho, ?_, _, h, ?_, fun u hu hextended => ?_⟩
  · obtain ⟨front, c, rest, more, rfl, -, hread, hplace⟩ := exists_read_of_mem_scan hscan t hmem
    rw [ht] at hread
    obtain ⟨back, hback⟩ := Lexeme.symbol_isPrefix_of_read hread
    exact ⟨front, back, by rw [hback], by rw [hplace, Nat.zero_add]⟩
  · rw [← ht]
    exact hmem
  · have hpairwise := List.pairwise_append.mp (pairwise_offset_of_scan hscan)
    rcases List.mem_append.mp hu with hu | hu
    · rw [hbefore u hu] at hextended
      cases hextended
    · rcases List.mem_cons.mp hu with rfl | hu
      · exact Nat.le_refl _
      · exact Nat.le_of_lt (List.rel_of_pairwise_cons hpairwise.2.1 hu)

/-- Tokens with extended operators have a first one. -/
theorem exists_first_extended {tokens : List Token}
    (h : ¬ ∀ t ∈ tokens, t.lexeme.isExtended = false) :
    ∃ (before after : List Token) (t : Token) (o : Operator), tokens = before ++ t :: after ∧
      (∀ u ∈ before, u.lexeme.isExtended = false) ∧ t.lexeme = .operator o ∧
      o.isExtended = true := by
  cases hfind : tokens.find? (·.lexeme.isExtended) with
  | none =>
      refine absurd (fun t ht => ?_) h
      exact Bool.eq_false_iff.mpr (List.find?_eq_none.mp hfind t ht)
  | some t =>
      obtain ⟨ht, before, after, htokens, hbefore⟩ := List.find?_eq_some_iff_append.mp hfind
      obtain ⟨o, hlex, ho⟩ := Lexeme.exists_operator ht
      refine ⟨before, after, t, o, htokens, fun u hu => ?_, hlex, ho⟩
      simpa using hbefore u hu

theorem compile_of_ofText {text : String} {tokens : List Token}
    (h : Token.ofText text.toList = .ok tokens) (d : Dialect) : compile text d =
      (stepsOfTokens d tokens (byteLength text.toList)).map (⟨·, text, d⟩) := by
  rw [compile, h]
  simp only [bind, Except.bind]
  cases stepsOfTokens d tokens (byteLength text.toList) <;> rfl

/-- **Arithmetic is the extended dialect without its comparisons and logical operators.** A text
that compiles as arithmetic compiles in the extended dialect, to the same steps, and these have none
of the operators that arithmetic lacks. A text that compiles in the extended dialect only has such
operators, and the fault is at the first one. -/
theorem compile_dialects_spec (text : String) :
    match compile text .arithmetic, compile text .extended with
    | .ok f, .ok g => f.steps = g.steps ∧ (∀ look : Lookup, f.value look = g.value look) ∧
        ∀ step ∈ g.steps, step.isExtended = false
    | .ok _, .error _ => False
    | .error fault, .ok g => (∃ step ∈ g.steps, step.isExtended = true) ∧
        ∃ (o : Operator) (offset : Nat), FirstExtended text.toList o offset ∧
          fault = .placed (.unavailableOperator o.symbol) offset ∧
          fault.cause.phase = .grammatical
    | .error _, .error _ => True := by
  cases htokens : Token.ofText text.toList with
  | error fault =>
      rw [compile, compile, htokens]
      trivial
  | ok tokens =>
      rw [compile_of_ofText htokens, compile_of_ofText htokens]
      by_cases hall : ∀ t ∈ tokens, t.lexeme.isExtended = false
      · rw [stepsOfTokens_congr .arithmetic .extended hall]
        cases hsteps : stepsOfTokens .extended tokens (byteLength text.toList) with
        | error fault => trivial
        | ok steps =>
            refine ⟨rfl, fun _ => rfl, fun step hstep => ?_⟩
            have hnone : steps.any Step.isExtended = false := by
              rw [any_isExtended_of_stepsOfTokens hsteps]
              exact List.any_eq_false.mpr fun t ht => Bool.eq_false_iff.mp (hall t ht)
            exact Bool.eq_false_iff.mpr (List.any_eq_false.mp hnone step hstep)
      · obtain ⟨before, after, t, o, rfl, hbefore, ht, ho⟩ := exists_first_extended hall
        cases hsteps : stepsOfTokens .extended (before ++ t :: after) (byteLength text.toList) with
        | ok steps =>
            rw [stepsOfTokens_arithmetic hsteps hbefore ht ho]
            have hsome : steps.any Step.isExtended = true := by
              rw [any_isExtended_of_stepsOfTokens hsteps, List.any_append, List.any_cons, ht,
                Lexeme.isExtended, ho, Bool.true_or, Bool.or_true]
            exact ⟨List.any_eq_true.mp hsome, o, t.offset,
              firstExtended_of_append htokens hbefore ht ho, rfl, rfl⟩
        | error fault =>
            cases harithmetic : stepsOfTokens .arithmetic (before ++ t :: after)
                (byteLength text.toList) with
            | error fault => trivial
            | ok steps => exact hall (isExtended_of_accepts (accepts_of_stepsOfTokens harithmetic))

/-- A text with two of the operators that arithmetic lacks, after a name of two bytes in braces. -/
def comparisonSample : String := "\x7bé\x7d + 1 > B || C"

theorem compile_dialects_spec_comparisonSample : ∃ (fault : Fault) (g : Formula) (o : Operator),
    compile comparisonSample .arithmetic = .error fault ∧
      compile comparisonSample .extended = .ok g ∧
      (∃ step ∈ g.steps, step.isExtended = true) ∧
      FirstExtended comparisonSample.toList o 9 ∧
      fault = .placed (.unavailableOperator o.symbol) 9 := by
  have hfault : (compile comparisonSample .arithmetic).map (fun _ => ()) =
      .error (.placed (.unavailableOperator ">") 9) := by
    decide +kernel
  have hcompiles : (compile comparisonSample .extended).toOption.isSome = true := by
    decide +kernel
  have hspec := compile_dialects_spec comparisonSample
  cases harithmetic : compile comparisonSample .arithmetic with
  | ok f =>
      rw [harithmetic] at hfault
      cases hfault
  | error fault =>
      cases hextended : compile comparisonSample .extended with
      | error other =>
          rw [hextended] at hcompiles
          cases hcompiles
      | ok g =>
          rw [harithmetic, hextended] at hspec
          rw [harithmetic] at hfault
          obtain ⟨hsteps, o, offset, hfirst, rfl, -⟩ := hspec
          obtain rfl : offset = 9 := Option.some.inj (congrArg Fault.offset (Except.error.inj hfault))
          exact ⟨_, g, o, rfl, rfl, hsteps, hfirst, rfl⟩

end Tabular.Formula
