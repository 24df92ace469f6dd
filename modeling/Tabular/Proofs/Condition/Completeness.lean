import Tabular.Proofs.Condition.Reading

set_option autoImplicit false

/-! # Every phrase is read

The reader of a class takes each phrase of it off the front of the tokens, provided that the phrase
ends there and that there are levels enough for its parentheses and negations. This goes by
induction on the derivation, with one lemma for each rule of the grammar.
-/

namespace Tabular.Condition

variable {textEnd : Nat}

/-! ## Readers in front of known tokens -/

/-- Parts without braces are read up to the closing brace. -/
theorem readName_parts {opened : Nat} {name : String} {parts rest : List Token} {t : Token}
    (hparts : ∀ p ∈ parts, p.isBrace = false) (ht : t.lexeme = .closeBrace)
    (hname : parts.foldl (fun name t => joinName name t.part) name ≠ "") :
    readName textEnd opened name (parts ++ t :: rest) =
      .ok (.column (parts.foldl (fun name t => joinName name t.part) name), rest) := by
  induction parts generalizing name with
  | nil =>
      rw [List.nil_append, readName, ht]
      exact if_neg hname
  | cons p parts ih =>
      rw [List.cons_append, readName_part (hparts p List.mem_cons_self)]
      exact ih (fun q hq => hparts q (List.mem_cons_of_mem p hq)) hname

section

variable {operand : Reader} {ts us marks rest : List Token} {c d : Condition}

/-- An operand is a comparison when no question follows. -/
theorem readComparison_plain (h : operand ts = .ok (c, rest)) (hends : Ends .comparison rest) :
    readComparison textEnd operand ts = .ok (c, rest) := by
  simp only [readComparison, h, bind, Except.bind]
  cases rest with
  | nil => rfl
  | cons t after =>
      have hasks : ¬ t.Asks := hends t rfl
      dsimp only
      split
      · rename_i ht
        exact absurd (.inr (.inl ⟨_, ht⟩)) hasks
      · rename_i ht
        exact absurd (.inl ⟨_, ht⟩) hasks
      · rename_i ht _ _
        exact absurd (Token.asks_of_keyword ht (by decide)) hasks
      · rename_i ht _ _
        exact absurd (Token.asks_of_keyword ht (by decide)) hasks
      · rename_i ht _ _
        exact absurd (Token.asks_of_keyword ht (by decide)) hasks
      · rename_i ht _ _
        exact absurd (Token.asks_of_keyword ht (by decide)) hasks
      · rfl

/-- A word is the only lexeme that spells a keyword. -/
theorem Token.exists_word {t : Token} {k : Keyword} (ht : t.keyword? = some k) :
    ∃ w, t.lexeme = .word w := by
  unfold Token.keyword? at ht
  split at ht
  · rename_i w hw
    exact ⟨w, hw⟩
  · cases ht

/-- A question and its other operand are read behind the first operand. -/
theorem readComparison_ask {q : Question} (h : operand ts = .ok (c, marks ++ us))
    (hq : q.Spelled marks) (hd : operand us = .ok (d, rest)) :
    readComparison textEnd operand ts = .ok (q.join c d, rest) := by
  cases hq with
  | relation ht =>
      simp only [readComparison, h, bind, Except.bind, List.cons_append, List.nil_append, ht, hd]
      rfl
  | matching ht =>
      simp only [readComparison, h, bind, Except.bind, List.cons_append, List.nil_append, ht, hd]
      rfl
  | @like ignoreCase _ _ hmarks =>
      cases hmarks with
      | plain ht =>
          obtain ⟨w, hw⟩ := Token.exists_word ht
          cases ignoreCase with
          | false =>
              simp only [likeWord, Bool.false_eq_true, if_false] at ht
              simp only [readComparison, h, bind, Except.bind, List.cons_append, List.nil_append,
                ht, hw, hd]
              rfl
          | true =>
              simp only [likeWord, if_true] at ht
              simp only [readComparison, h, bind, Except.bind, List.cons_append, List.nil_append,
                ht, hw, hd]
              rfl
      | @negated n t hn ht =>
          obtain ⟨w, hw⟩ := Token.exists_word hn
          cases ignoreCase with
          | false =>
              simp only [likeWord, Bool.false_eq_true, if_false] at ht
              have hlike : expectKeyword textEnd .like (t :: us) = .ok us :=
                expectKeyword_eq_ok.mpr ⟨t, ht, rfl⟩
              simp only [readComparison, h, bind, Except.bind, List.cons_append, List.nil_append,
                hn, ht, hw, hlike, hd]
              rfl
          | true =>
              simp only [likeWord, if_true] at ht
              simp only [readComparison, h, bind, Except.bind, List.cons_append, List.nil_append,
                hn, ht, hw, hd]
              rfl

/-- A range is read behind its first operand. -/
theorem readComparison_between {negated : Bool} (h : operand ts = .ok (c, marks ++ us))
    (hmarks : Spells .between negated marks)
    (hbounds : readBounds textEnd operand negated c us = .ok (d, rest)) :
    readComparison textEnd operand ts = .ok (d, rest) := by
  cases hmarks with
  | plain ht =>
      obtain ⟨w, hw⟩ := Token.exists_word ht
      simp only [readComparison, h, bind, Except.bind, List.cons_append, List.nil_append, ht, hw]
      exact hbounds
  | negated hn ht =>
      obtain ⟨w, hw⟩ := Token.exists_word hn
      simp only [readComparison, h, bind, Except.bind, List.cons_append, List.nil_append, hn, ht,
        hw]
      exact hbounds

end

/-! ## One lemma for each rule -/

/-- A phrase **is read** when its reader takes it wherever it ends. -/
def Reads (textEnd : Nat) (cat : Category) (ts : List Token) (a : Tree) : Prop :=
  ∀ (levels : Nat) (rest : List Token), a.nesting ≤ levels → Ends cat rest →
    reader textEnd levels cat (ts ++ rest) = .ok (a.ast, rest)

/-- The operands of a chain **are read** when a budget for the connectives is enough. -/
def ReadsChain (textEnd : Nat) (c : Connective) (ts : List Token) (a : Tree)
    (as : List Tree) : Prop :=
  ∀ (levels : Nat) (rest budget : List Token), max a.nesting (Tree.nestingAll as) ≤ levels →
    Ends (.chain c) rest → as.length ≤ budget.length →
    readOperands c.keyword (reader textEnd levels c.part) budget (ts ++ rest) =
      .ok ((a.ast, Tree.astAll as), rest)

theorem reads_number {t : Token} {v : Float} (ht : t.lexeme = .number v) :
    Reads textEnd .operand [t] (.number v) := by
  intro levels rest _ _
  obtain ⟨lexeme, text, offset⟩ := t
  cases ht
  rfl

theorem reads_quoted {t : Token} {s : String} (ht : t.lexeme = .quoted s) :
    Reads textEnd .operand [t] (.quoted s) := by
  intro levels rest _ _
  obtain ⟨lexeme, text, offset⟩ := t
  cases ht
  rfl

theorem reads_word {t : Token} {w : String} (ht : t.lexeme = .word w) :
    Reads textEnd .operand [t] (.word w) :=
  fun _ rest _ _ => readOperand_word ht rest

theorem reads_name {o c : Token} {parts : List Token} (ho : o.lexeme = .openBrace)
    (hparts : ∀ p ∈ parts, p.isBrace = false) (hname : nameOf parts ≠ "")
    (hc : c.lexeme = .closeBrace) : Reads textEnd .operand (o :: (parts ++ [c])) (.name parts) := by
  intro levels rest _ _
  obtain ⟨lexeme, text, offset⟩ := o
  cases ho
  show readName textEnd offset "" (parts ++ [c] ++ rest) = _
  rw [List.append_assoc]
  exact readName_parts hparts hc hname

theorem reads_parens {o c : Token} {ts : List Token} {a : Tree} (ho : o.lexeme = .opening)
    (ha : Reads textEnd (.chain .or) ts a) (hc : c.lexeme = .closing) :
    Reads textEnd .operand (o :: (ts ++ [c])) (.parens a) := by
  intro levels rest hnesting _
  obtain ⟨lexeme, text, offset⟩ := c
  obtain rfl : lexeme = .closing := hc
  cases levels with
  | zero => exact absurd hnesting (Nat.not_succ_le_zero _)
  | succ next =>
      have hinner := ha next (⟨.closing, text, offset⟩ :: rest) (Nat.le_of_succ_le_succ hnesting)
        (ends_closing rfl _ rest)
      show readOperand textEnd (some (reader textEnd next (.chain .or)))
        (o :: (ts ++ [_] ++ rest)) = _
      rw [List.append_assoc, readOperand, ho]
      simp only [List.cons_append, List.nil_append, hinner, bind, Except.bind]
      rfl

theorem reads_plain {ts : List Token} {a : Tree} (ha : Reads textEnd .operand ts a) :
    Reads textEnd .comparison ts a := by
  intro levels rest hnesting hends
  exact readComparison_plain (ha levels rest hnesting (ends_operand rest)) hends

theorem reads_ask {q : Question} {us marks vs : List Token} {a b : Tree}
    (ha : Reads textEnd .operand us a) (hq : q.Spelled marks)
    (hb : Reads textEnd .operand vs b) :
    Reads textEnd .comparison (us ++ (marks ++ vs)) (.ask q a b) := by
  intro levels rest hnesting _
  have hnestings := Nat.max_le.mp hnesting
  have hfirst := ha levels (marks ++ (vs ++ rest)) hnestings.1 (ends_operand _)
  have hsecond := hb levels rest hnestings.2 (ends_operand rest)
  rw [List.append_assoc, List.append_assoc]
  exact readComparison_ask hfirst hq hsecond

theorem reads_between {negated : Bool} {us marks vs ws : List Token} {t : Token}
    {a low high : Tree} (ha : Reads textEnd .operand us a) (hmarks : Spells .between negated marks)
    (hlow : Reads textEnd .operand vs low) (ht : t.keyword? = some .and)
    (hhigh : Reads textEnd .operand ws high) :
    Reads textEnd .comparison (us ++ (marks ++ (vs ++ t :: ws)))
      (.between negated a low high) := by
  intro levels rest hnesting _
  have hnestings := Nat.max_le.mp hnesting
  have hbounds := Nat.max_le.mp hnestings.2
  -- the `AND` between the bounds is met by the reader of ranges, before that of conjunctions
  have hfirst := ha levels (marks ++ (vs ++ t :: (ws ++ rest))) hnestings.1 (ends_operand _)
  have hsecond := hlow levels (t :: (ws ++ rest)) hbounds.1 (ends_operand _)
  have hthird := hhigh levels rest hbounds.2 (ends_operand rest)
  have hand : expectKeyword textEnd .and (t :: (ws ++ rest)) = .ok (ws ++ rest) :=
    expectKeyword_eq_ok.mpr ⟨t, ht, rfl⟩
  simp only [List.append_assoc, List.cons_append]
  refine readComparison_between hfirst hmarks ?_
  show readBounds textEnd (reader textEnd levels .operand) _ _ _ = _
  simp only [readBounds, hsecond, hand, hthird, bind, Except.bind]
  rfl

theorem reads_not {t : Token} {ts : List Token} {a : Tree} (ht : t.keyword? = some .not)
    (ha : Reads textEnd .negation ts a) : Reads textEnd .negation (t :: ts) (.not a) := by
  intro levels rest hnesting hends
  cases levels with
  | zero => exact absurd hnesting (Nat.not_succ_le_zero _)
  | succ next =>
      have hnext : readNegation textEnd next (ts ++ rest) = .ok (a.ast, rest) :=
        ha next rest (Nat.le_of_succ_le_succ hnesting) hends
      show readNegation textEnd (next + 1) (t :: (ts ++ rest)) = _
      rw [readNegation_not ht, hnext]
      rfl

theorem reads_last {c : Connective} {ts : List Token} {a : Tree}
    (ha : Reads textEnd c.part ts a) : ReadsChain textEnd c ts a [] := by
  intro levels rest budget hnesting hends _
  have hfirst := ha levels rest (Nat.max_le.mp hnesting).1 hends.part
  -- the reader stops here for want of budget, or since no connective follows
  cases budget with
  | nil =>
      rw [readOperands_nil, hfirst]
      rfl
  | cons b budget =>
      rw [readOperands_cons, hfirst]
      cases rest with
      | nil => rfl
      | cons t after =>
          have ht : t.keyword? ≠ some c.keyword := by
            intro ht
            refine hends t rfl ?_
            cases c with
            | or => exact .inr (.inr ht)
            | and => exact .inr ht
          simp only [bind, Except.bind, if_neg ht]
          rfl

theorem reads_more {c : Connective} {ts us : List Token} {t : Token} {a b : Tree}
    {bs : List Tree} (ha : Reads textEnd c.part ts a) (ht : t.keyword? = some c.keyword)
    (hbs : ReadsChain textEnd c us b bs) : ReadsChain textEnd c (ts ++ t :: us) a (b :: bs) := by
  intro levels rest budget hnesting hends hbudget
  have hnestings := Nat.max_le.mp hnesting
  have hfirst := ha levels (t :: (us ++ rest)) hnestings.1 (ends_keyword ht _)
  cases budget with
  | nil => cases hbudget
  | cons d budget =>
      have hothers := hbs levels rest budget hnestings.2 hends (Nat.le_of_succ_le_succ hbudget)
      rw [List.append_assoc, List.cons_append, readOperands_cons, hfirst]
      simp only [bind, Except.bind, if_pos ht, hothers]
      rfl

/-! ## Every derivation -/

mutual

/-- A phrase has a first token. -/
theorem Derives.exists_cons : ∀ {cat : Category} {ts : List Token} {a : Tree},
    Derives cat ts a → ∃ (t : Token) (us : List Token), ts = t :: us
  | _, _, _, .number _ => ⟨_, _, rfl⟩
  | _, _, _, .quoted _ => ⟨_, _, rfl⟩
  | _, _, _, .word _ => ⟨_, _, rfl⟩
  | _, _, _, .name _ _ _ _ => ⟨_, _, rfl⟩
  | _, _, _, .parens _ _ _ => ⟨_, _, rfl⟩
  | _, _, _, .not _ _ => ⟨_, _, rfl⟩
  | _, _, _, .plain ha => ha.exists_cons
  | _, _, _, .asserted ha _ => ha.exists_cons
  | _, _, _, .chain h => h.exists_cons
  | _, _, _, .ask ha _ _ => by
      obtain ⟨t, us, rfl⟩ := ha.exists_cons
      exact ⟨t, _, rfl⟩
  | _, _, _, .between ha _ _ _ _ => by
      obtain ⟨t, us, rfl⟩ := ha.exists_cons
      exact ⟨t, _, rfl⟩

theorem DerivesChain.exists_cons : ∀ {c : Connective} {ts : List Token} {a : Tree}
    {as : List Tree}, DerivesChain c ts a as → ∃ (t : Token) (us : List Token), ts = t :: us
  | _, _, _, _, .last ha => ha.exists_cons
  | _, _, _, _, .more ha _ _ => by
      obtain ⟨t, us, rfl⟩ := ha.exists_cons
      exact ⟨t, _, rfl⟩

end

/-- A chain has a token for each of its operands, so its tokens are budget enough for its
connectives. -/
theorem DerivesChain.length_lt {c : Connective} {ts : List Token} {a : Tree} {as : List Tree}
    (h : DerivesChain c ts a as) : as.length < ts.length := by
  match h with
  | .last ha =>
      obtain ⟨t, us, rfl⟩ := ha.exists_cons
      exact Nat.succ_pos _
  | .more _ _ hbs =>
      have hlt := hbs.length_lt
      simp only [List.length_cons, List.length_append]
      omega

theorem reads_asserted {ts : List Token} {a : Tree} (ha : Derives .comparison ts a)
    (hts : ∀ t ∈ ts.head?, t.keyword? ≠ some .not) (hreads : Reads textEnd .comparison ts a) :
    Reads textEnd .negation ts a := by
  intro levels rest hnesting hends
  obtain ⟨t, us, rfl⟩ := ha.exists_cons
  show readNegation textEnd levels (t :: (us ++ rest)) = _
  rw [readNegation_asserted (hts t rfl)]
  exact hreads levels rest hnesting hends

theorem reads_chain {c : Connective} {ts : List Token} {a : Tree} {as : List Tree}
    (h : DerivesChain c ts a as) (hreads : ReadsChain textEnd c ts a as) :
    Reads textEnd (.chain c) ts (.chain c a as) := by
  intro levels rest hnesting hends
  have hlength : as.length ≤ (ts ++ rest).length := by
    have hlt := h.length_lt
    rw [List.length_append]
    omega
  rw [reader_chain, readChain, hreads levels rest (ts ++ rest) hnesting hends hlength]
  rfl

mutual

/-- **Every phrase is read**, by induction on its derivation. -/
theorem reads_of_derives : ∀ {cat : Category} {ts : List Token} {a : Tree},
    Derives cat ts a → Reads textEnd cat ts a
  | _, _, _, .number ht => reads_number ht
  | _, _, _, .quoted ht => reads_quoted ht
  | _, _, _, .word ht => reads_word ht
  | _, _, _, .name ho hparts hname hc => reads_name ho hparts hname hc
  | _, _, _, .parens ho ha hc => reads_parens ho (reads_of_derives ha) hc
  | _, _, _, .plain ha => reads_plain (reads_of_derives ha)
  | _, _, _, .ask ha hq hb => reads_ask (reads_of_derives ha) hq (reads_of_derives hb)
  | _, _, _, .between ha hmarks hlow ht hhigh =>
      reads_between (reads_of_derives ha) hmarks (reads_of_derives hlow) ht
        (reads_of_derives hhigh)
  | _, _, _, .not ht ha => reads_not ht (reads_of_derives ha)
  | _, _, _, .asserted ha hts => reads_asserted ha hts (reads_of_derives ha)
  | _, _, _, .chain h => reads_chain h (readsChain_of_derives h)

theorem readsChain_of_derives : ∀ {c : Connective} {ts : List Token} {a : Tree}
    {as : List Tree}, DerivesChain c ts a as → ReadsChain textEnd c ts a as
  | _, _, _, _, .last ha => reads_last (reads_of_derives ha)
  | _, _, _, _, .more ha ht hbs => reads_more (reads_of_derives ha) ht (readsChain_of_derives hbs)

end

end Tabular.Condition
