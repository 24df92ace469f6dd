import Tabular.Proofs.Condition.Grammar

set_option autoImplicit false

/-! # What the readers of conditions read

Each reader takes a phrase of its class off the front of the tokens, nested no deeper than the
levels it is given (`Sound`). This is shown for the readers of one level from those of the next,
and so by induction for all of them (`sound_reader`).
-/

namespace Tabular.Condition

variable {textEnd : Nat}

/-! ## The readers of a level -/

/-- The reader of the conditions in parentheses, when there is a level left for them. -/
def inner (textEnd : Nat) : Nat → Option Reader
  | 0 => none
  | levels + 1 => some (readLogic (readNegation textEnd levels))

/-- The reader of the phrases of a class, given how many more levels may be opened. -/
def reader (textEnd levels : Nat) : Category → Reader
  | .operand => readOperand textEnd (inner textEnd levels)
  | .comparison => readComparison textEnd (readOperand textEnd (inner textEnd levels))
  | .negation => readNegation textEnd levels
  | .chain .and => readChain .and .and (readNegation textEnd levels)
  | .chain .or => readLogic (readNegation textEnd levels)

theorem reader_chain (levels : Nat) (c : Connective) :
    reader textEnd levels (.chain c) =
      readChain c.keyword c.join (reader textEnd levels c.part) := by
  cases c <;> rfl

/-- Tokens that do not start with `NOT` are read as a comparison. -/
theorem readNegation_asserted {levels : Nat} {t : Token} {ts : List Token}
    (ht : t.keyword? ≠ some .not) :
    readNegation textEnd levels (t :: ts) = reader textEnd levels .comparison (t :: ts) := by
  cases levels with
  | zero => rw [readNegation, if_neg ht]; rfl
  | succ levels => rw [readNegation, if_neg ht]; rfl

/-- Tokens that start with `NOT` are read as a negation, on the next level. -/
theorem readNegation_not {levels : Nat} {t : Token} {ts : List Token}
    (ht : t.keyword? = some .not) : readNegation textEnd (levels + 1) (t :: ts) = (do
      let (c, rest) ← readNegation textEnd levels ts
      pure (.not c, rest)) := by
  rw [readNegation, if_pos ht]

/-! ## Readers take phrases -/

/-- Tokens begin with a **phrase** of a class that writes a condition, nested no deeper than some
levels. -/
def Phrase (cat : Category) (levels : Nat) (ts : List Token) (c : Condition)
    (rest : List Token) : Prop :=
  ∃ (used : List Token) (a : Tree),
    ts = used ++ rest ∧ Derives cat used a ∧ a.nesting ≤ levels ∧ a.ast = c

/-- A reader is **sound** for a class of phrases when it takes nothing else off the tokens. -/
def Sound (cat : Category) (levels : Nat) (read : Reader) : Prop :=
  ∀ (ts : List Token) (c : Condition) (rest : List Token),
    read ts = .ok (c, rest) → Phrase cat levels ts c rest

/-- A token that is no brace is the next part of a name. -/
theorem readName_part {opened : Nat} {name : String} {t : Token} (ht : t.isBrace = false)
    (rest : List Token) : readName textEnd opened name (t :: rest) =
      readName textEnd opened (joinName name t.part) rest := by
  obtain ⟨lexeme, text, offset⟩ := t
  cases lexeme <;> first | rfl | cases ht

/-- The reader of names takes parts up to a closing brace. -/
theorem sound_readName {opened : Nat} {ts rest : List Token} {name : String} {c : Condition}
    (h : readName textEnd opened name ts = .ok (c, rest)) :
    ∃ (parts : List Token) (t : Token), ts = parts ++ t :: rest ∧
      (∀ p ∈ parts, p.isBrace = false) ∧ t.lexeme = .closeBrace ∧
      parts.foldl (fun name t => joinName name t.part) name ≠ "" ∧
      c = .column (parts.foldl (fun name t => joinName name t.part) name) := by
  induction ts generalizing name with
  | nil => cases h
  | cons t ts ih =>
      by_cases hbrace : t.isBrace = true
      · obtain ⟨lexeme, text, offset⟩ := t
        cases lexeme with
        | closeBrace =>
            simp only [readName] at h
            split at h
            · cases h
            · rename_i hname
              cases h
              refine ⟨[], _, rfl, ?_, rfl, hname, rfl⟩
              intro p hp
              cases hp
        | openBrace => cases h
        | _ => cases hbrace
      · have hpart : t.isBrace = false := Bool.eq_false_iff.mpr hbrace
        rw [readName_part hpart] at h
        obtain ⟨parts, u, rfl, hparts, hu, hname, hc⟩ := ih h
        refine ⟨t :: parts, u, rfl, ?_, hu, hname, hc⟩
        intro p hp
        rcases List.mem_cons.mp hp with rfl | hp
        · exact hpart
        · exact hparts p hp

/-- A word in front is an operand, whatever keyword it could be. -/
theorem readOperand_word {read? : Option Reader} {t : Token} {w : String}
    (ht : t.lexeme = .word w) (rest : List Token) :
    readOperand textEnd read? (t :: rest) = .ok (wordCondition w, rest) := by
  simp only [readOperand, Token.keyword?, wordCondition, ht]
  generalize Keyword.ofWord? w = k
  rcases k with _ | k
  · rfl
  · cases k <;> rfl

/-- The reader of operands is sound when that of conditions in parentheses is. -/
theorem sound_readOperand {levels : Nat} {read? : Option Reader}
    (hread : ∀ read ∈ read?, ∃ next, levels = next + 1 ∧ Sound (.chain .or) next read) :
    Sound .operand levels (readOperand textEnd read?) := by
  intro ts c rest h
  cases ts with
  | nil => cases h
  | cons t ts =>
      obtain ⟨lexeme, text, offset⟩ := t
      cases lexeme with
      | number v =>
          cases h
          exact ⟨[_], .number v, rfl, .number rfl, Nat.zero_le _, rfl⟩
      | quoted s =>
          cases h
          exact ⟨[_], .quoted s, rfl, .quoted rfl, Nat.zero_le _, rfl⟩
      | word w =>
          rw [readOperand_word rfl] at h
          cases h
          exact ⟨[_], .word w, rfl, .word rfl, Nat.zero_le _, rfl⟩
      -- names and conditions in parentheses are the only operands of more than one token
      | openBrace =>
          obtain ⟨parts, u, rfl, hparts, hu, hname, rfl⟩ := sound_readName h
          refine ⟨_ :: (parts ++ [u]), .name parts, ?_, .name (o := ⟨_, text, offset⟩) rfl hparts
            hname hu, Nat.zero_le _, rfl⟩
          simp only [List.cons_append, List.append_assoc, List.nil_append]
      | opening =>
          cases read? with
          | none => cases h
          | some read =>
              obtain ⟨next, rfl, hsound⟩ := hread read rfl
              obtain ⟨⟨d, left⟩, hd, hclose⟩ := bind_eq_ok h
              obtain ⟨used, a, rfl, ha, hnesting, rfl⟩ := hsound _ _ _ hd
              dsimp only at hclose
              split at hclose
              · rename_i ctext coffset left
                cases hclose
                refine ⟨_ :: (used ++ [⟨.closing, ctext, coffset⟩]), .parens a, ?_,
                  .parens (o := ⟨_, text, offset⟩) rfl ha rfl, Nat.succ_le_succ hnesting, rfl⟩
                simp only [List.cons_append, List.append_assoc, List.nil_append]
              · cases hclose
      | relation _ | matching _ | closing | closeBrace | comma => cases h

/-! ### Comparisons -/

/-- A keyword is expected, and taken, when it is the first token. -/
theorem expectKeyword_eq_ok {k : Keyword} {ts rest : List Token} :
    expectKeyword textEnd k ts = .ok rest ↔ ∃ t, t.keyword? = some k ∧ ts = t :: rest := by
  unfold expectKeyword
  cases ts with
  | nil => simp only [reduceCtorEq, and_false, exists_false]
  | cons t ts =>
      constructor
      · intro h
        dsimp only at h
        split at h
        · rename_i ht
          cases h
          exact ⟨t, ht, rfl⟩
        · cases h
      · rintro ⟨u, hu, hcons⟩
        obtain ⟨rfl, rfl⟩ := List.cons.inj hcons
        exact if_pos hu

/-- The reader of the bounds of a range takes them with the `AND` between them. -/
theorem sound_readBounds {levels : Nat} {operand : Reader} (hop : Sound .operand levels operand)
    {negated : Bool} {target c : Condition} {ts rest : List Token}
    (h : readBounds textEnd operand negated target ts = .ok (c, rest)) :
    ∃ (vs ws : List Token) (t : Token) (low high : Tree), ts = vs ++ t :: (ws ++ rest) ∧
      Derives .operand vs low ∧ t.keyword? = some .and ∧ Derives .operand ws high ∧
      max low.nesting high.nesting ≤ levels ∧ c = .between negated target low.ast high.ast := by
  obtain ⟨⟨d, left⟩, hd, h⟩ := bind_eq_ok h
  obtain ⟨left', hand, h⟩ := bind_eq_ok h
  obtain ⟨⟨e, left''⟩, he, h⟩ := bind_eq_ok h
  cases h
  obtain ⟨vs, low, rfl, hlow, hlowNesting, rfl⟩ := hop _ _ _ hd
  obtain ⟨t, ht, rfl⟩ := expectKeyword_eq_ok.mp hand
  obtain ⟨ws, high, rfl, hhigh, hhighNesting, rfl⟩ := hop _ _ _ he
  exact ⟨vs, ws, t, low, high, rfl, hlow, ht, hhigh, Nat.max_le.mpr ⟨hlowNesting, hhighNesting⟩,
    rfl⟩

section

variable {levels : Nat} {us : List Token} {a : Tree}

/-- An operand and a question with its other operand are a comparison. -/
theorem Phrase.ask {q : Question} {marks ts rest : List Token} {d : Condition}
    (ha : Derives .operand us a) (hnesting : a.nesting ≤ levels) (hq : q.Spelled marks)
    (h : Phrase .operand levels ts d rest) :
    Phrase .comparison levels (us ++ (marks ++ ts)) (q.join a.ast d) rest := by
  obtain ⟨vs, b, rfl, hb, hbNesting, rfl⟩ := h
  refine ⟨us ++ (marks ++ vs), .ask q a b, ?_, .ask ha hq hb, Nat.max_le.mpr ⟨hnesting, hbNesting⟩,
    rfl⟩
  simp only [List.append_assoc]

/-- An operand and a range are a comparison. -/
theorem Phrase.between {operand : Reader} (hop : Sound .operand levels operand)
    {negated : Bool} {marks ts rest : List Token} {c : Condition}
    (ha : Derives .operand us a) (hnesting : a.nesting ≤ levels)
    (hmarks : Spells .between negated marks)
    (h : readBounds textEnd operand negated a.ast ts = .ok (c, rest)) :
    Phrase .comparison levels (us ++ (marks ++ ts)) c rest := by
  obtain ⟨vs, ws, t, low, high, rfl, hlow, ht, hhigh, hbounds, rfl⟩ := sound_readBounds hop h
  refine ⟨us ++ (marks ++ (vs ++ t :: ws)), .between negated a low high, ?_,
    .between ha hmarks hlow ht hhigh, Nat.max_le.mpr ⟨hnesting, hbounds⟩, rfl⟩
  simp only [List.append_assoc, List.cons_append]

end

/-- The reader of comparisons is sound when that of operands is. -/
theorem sound_readComparison {levels : Nat} {operand : Reader}
    (hop : Sound .operand levels operand) :
    Sound .comparison levels (readComparison textEnd operand) := by
  intro ts c rest h
  obtain ⟨⟨d, left⟩, hd, h⟩ := bind_eq_ok h
  obtain ⟨us, a, rfl, ha, hnesting, rfl⟩ := hop _ _ _ hd
  -- what reads the other operand of a question reads a comparison
  have ask : ∀ (q : Question) (marks vs : List Token), q.Spelled marks →
      (do let (right, rest) ← operand vs
          pure (q.join a.ast right, rest)) = Except.ok (c, rest) →
      Phrase .comparison levels (us ++ (marks ++ vs)) c rest := by
    intro q marks vs hq hask
    obtain ⟨⟨e, left⟩, he, hask⟩ := bind_eq_ok hask
    cases hask
    exact .ask ha hnesting hq (hop _ _ _ he)
  have plain : Phrase .comparison levels (us ++ left) a.ast left :=
    ⟨us, a, rfl, .plain ha, hnesting, rfl⟩
  cases left with
  | nil =>
      cases h
      exact plain
  | cons t after =>
      dsimp only at h
      split at h
      · rename_i ht
        exact ask (.matching _) [t] after (.matching ht) h
      · rename_i ht
        exact ask (.relation _) [t] after (.relation ht) h
      · rename_i ht _ _
        exact .between hop ha hnesting (.plain ht) h
      · rename_i ht _ _
        exact ask (.like false false) [t] after (.like (.plain ht)) h
      · rename_i ht _ _
        exact ask (.like true false) [t] after (.like (.plain ht)) h
      -- after `NOT` stands the keyword that it negates
      · rename_i hnot _ _
        cases after with
        | nil => cases h
        | cons u after =>
            dsimp only at h
            split at h
            · rename_i hu
              exact .between hop ha hnesting (.negated hnot hu) h
            · rename_i hu
              exact ask (.like true true) [t, u] after (.like (.negated hnot hu)) h
            · obtain ⟨left, hlike, h⟩ := bind_eq_ok h
              obtain ⟨v, hv, hcons⟩ := expectKeyword_eq_ok.mp hlike
              obtain ⟨rfl, rfl⟩ := List.cons.inj hcons
              exact ask (.like false true) [t, u] after (.like (.negated hnot hv)) h
      · cases h
        exact plain

/-! ### Chains and negations -/

section

variable {word : Keyword} {operand : Reader}

theorem readOperands_nil (ts : List Token) : readOperands word operand [] ts = (do
      let (first, rest) ← operand ts
      pure ((first, []), rest)) := by
  delta readOperands
  rfl

/-- With a budget left, a reader of operands goes on behind each of the keywords. -/
theorem readOperands_cons (b : Token) (budget ts : List Token) :
    readOperands word operand (b :: budget) ts = (do
      let (first, rest) ← operand ts
      match rest with
      | t :: after =>
        if t.keyword? = some word then
          let ((second, others), rest) ← readOperands word operand budget after
          pure ((first, second :: others), rest)
        else pure ((first, []), rest)
      | [] => pure ((first, []), [])) := by
  delta readOperands
  show (operand ts >>= _) = (operand ts >>= _)
  congr 1
  funext ⟨first, rest⟩
  cases rest <;> rfl

end

/-- Tokens begin with operands, nested no deeper than some levels, and connectives between them. -/
def PhraseChain (c : Connective) (levels : Nat) (ts : List Token) (first : Condition)
    (others : List Condition) (rest : List Token) : Prop :=
  ∃ (used : List Token) (a : Tree) (as : List Tree), ts = used ++ rest ∧
    DerivesChain c used a as ∧ max a.nesting (Tree.nestingAll as) ≤ levels ∧
    a.ast = first ∧ Tree.astAll as = others

section

variable {c : Connective} {levels : Nat} {ts rest : List Token} {first : Condition}

theorem Phrase.last (h : Phrase c.part levels ts first rest) :
    PhraseChain c levels ts first [] rest := by
  obtain ⟨used, a, rfl, ha, hnesting, rfl⟩ := h
  exact ⟨used, a, [], rfl, .last ha, Nat.max_le.mpr ⟨hnesting, Nat.zero_le _⟩, rfl, rfl⟩

/-- One more operand in front makes a chain longer. -/
theorem Phrase.more {t : Token} {after : List Token} {second : Condition}
    {others : List Condition} (h : Phrase c.part levels ts first (t :: after))
    (ht : t.keyword? = some c.keyword) (hothers : PhraseChain c levels after second others rest) :
    PhraseChain c levels ts first (second :: others) rest := by
  obtain ⟨used, a, rfl, ha, hnesting, rfl⟩ := h
  obtain ⟨used', b, bs, rfl, hbs, hnesting', rfl, rfl⟩ := hothers
  refine ⟨used ++ t :: used', a, b :: bs, ?_, .more ha ht hbs,
    Nat.max_le.mpr ⟨hnesting, hnesting'⟩, rfl, rfl⟩
  simp only [List.append_assoc, List.cons_append]

/-- The reader of operands with a connective between them takes just those. -/
theorem sound_readOperands {part : Reader} (hpart : Sound c.part levels part) {budget : List Token}
    {others : List Condition}
    (h : readOperands c.keyword part budget ts = .ok ((first, others), rest)) :
    PhraseChain c levels ts first others rest := by
  induction budget generalizing ts first others with
  | nil =>
      rw [readOperands_nil] at h
      obtain ⟨⟨d, left⟩, hd, h⟩ := bind_eq_ok h
      cases h
      exact (hpart _ _ _ hd).last
  | cons b budget ih =>
      rw [readOperands_cons] at h
      obtain ⟨⟨d, left⟩, hd, h⟩ := bind_eq_ok h
      have hphrase : Phrase c.part levels ts d left := hpart _ _ _ hd
      cases left with
      | nil =>
          cases h
          exact hphrase.last
      | cons t after =>
          dsimp only at h
          split at h
          · rename_i ht
            obtain ⟨⟨⟨second, tail⟩, left⟩, htail, h⟩ := bind_eq_ok h
            cases h
            exact hphrase.more ht (ih htail)
          · cases h
            exact hphrase.last

end

/-- The reader of a chain is sound when that of its operands is. -/
theorem sound_readChain {levels : Nat} {c : Connective} {part : Reader}
    (hpart : Sound c.part levels part) :
    Sound (.chain c) levels (readChain c.keyword c.join part) := by
  intro ts d rest h
  obtain ⟨⟨⟨first, others⟩, left⟩, hoperands, h⟩ := bind_eq_ok h
  cases h
  obtain ⟨used, a, as, rfl, hchain, hnesting, rfl, rfl⟩ := sound_readOperands hpart hoperands
  exact ⟨used, .chain c a as, rfl, .chain hchain, hnesting, rfl⟩

section

variable {levels : Nat}

/-- The reader of operands is sound when, one level down, that of negations is. -/
theorem sound_operand
    (h : ∀ next, levels = next + 1 → Sound .negation next (readNegation textEnd next)) :
    Sound .operand levels (reader textEnd levels .operand) := by
  refine sound_readOperand fun read hread => ?_
  cases levels with
  | zero => cases hread
  | succ next =>
      cases hread
      exact ⟨next, rfl, sound_readChain (c := .or) (sound_readChain (c := .and) (h next rfl))⟩

/-- Without `NOT` in front, the reader of negations takes a comparison. -/
theorem phrase_asserted {t : Token} {ts rest : List Token} {c : Condition}
    (hop : Sound .operand levels (reader textEnd levels .operand)) (ht : t.keyword? ≠ some .not)
    (h : readNegation textEnd levels (t :: ts) = .ok (c, rest)) :
    Phrase .negation levels (t :: ts) c rest := by
  rw [readNegation_asserted ht] at h
  have hcomparison : Sound .comparison levels (reader textEnd levels .comparison) :=
    sound_readComparison hop
  obtain ⟨used, a, heq, ha, hnesting, rfl⟩ := hcomparison _ _ _ h
  refine ⟨used, a, heq, .asserted ha fun u hu => ?_, hnesting, rfl⟩
  -- the first token of the comparison is the first of all
  cases used with
  | nil => cases hu
  | cons v used =>
      cases hu
      obtain ⟨rfl, -⟩ := List.cons.inj heq
      exact ht

end

/-- The reader of negations is sound, by induction on the levels that are left. -/
theorem sound_readNegation (levels : Nat) :
    Sound .negation levels (readNegation textEnd levels) := by
  induction levels with
  | zero =>
      intro ts c rest h
      cases ts with
      | nil => cases h
      | cons t ts =>
          -- on the last level there is no reader for what follows `NOT`
          by_cases ht : t.keyword? = some .not
          · rw [readNegation, if_pos ht] at h
            cases h
          · exact phrase_asserted (sound_operand fun _ hnext => nomatch hnext) ht h
  | succ levels ih =>
      intro ts c rest h
      cases ts with
      | nil => cases h
      | cons t ts =>
          by_cases ht : t.keyword? = some .not
          · rw [readNegation_not ht] at h
            obtain ⟨⟨d, left⟩, hd, h⟩ := bind_eq_ok h
            cases h
            obtain ⟨used, a, rfl, ha, hnesting, rfl⟩ := ih _ _ _ hd
            exact ⟨t :: used, .not a, rfl, .not ht ha, Nat.succ_le_succ hnesting, rfl⟩
          · refine phrase_asserted (sound_operand fun next hnext => ?_) ht h
            obtain rfl := Nat.succ.inj hnext
            exact ih

/-- **The readers take phrases only.** -/
theorem sound_reader (levels : Nat) (cat : Category) :
    Sound cat levels (reader textEnd levels cat) := by
  have hop : Sound .operand levels (reader textEnd levels .operand) :=
    sound_operand fun next _ => sound_readNegation next
  have hnegation : Sound .negation levels (readNegation textEnd levels) :=
    sound_readNegation levels
  have hand := sound_readChain (c := .and) hnegation
  match cat with
  | .operand => exact hop
  | .comparison => exact sound_readComparison hop
  | .negation => exact hnegation
  | .chain .and => exact hand
  | .chain .or => exact sound_readChain (c := .or) hand

end Tabular.Condition
