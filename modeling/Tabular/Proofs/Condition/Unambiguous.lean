import Tabular.Proofs.Condition.Completeness

set_option autoImplicit false

/-! # The grammar of conditions is unambiguous

Two phrases of one class that begin the same tokens, and both end where they do, are the same
tokens: the reader of the class takes both of them (`extent_eq`). So the parts of two derivations
from the same tokens begin and end at the same places, and by induction the trees are the same
(`eq_of_derives`).
-/

namespace Tabular.Condition

/-- **Phrases have one extent**: of two that begin the same tokens, and end, neither goes on longer
than the other. -/
theorem extent_eq {cat : Category} {us vs us' vs' : List Token} {a b : Tree}
    (ha : Derives cat us a) (hb : Derives cat vs b) (h : us ++ us' = vs ++ vs')
    (hus : Ends cat us') (hvs : Ends cat vs') : us = vs ∧ us' = vs' := by
  -- the place of the end of the text only matters to faults
  have hreads : Reads 0 cat us a := reads_of_derives ha
  have hreads' : Reads 0 cat vs b := reads_of_derives hb
  have hfirst := hreads _ us' (Nat.le_max_left a.nesting b.nesting) hus
  have hsecond := hreads' _ vs' (Nat.le_max_right a.nesting b.nesting) hvs
  rw [h, hsecond] at hfirst
  obtain rfl : us' = vs' := by
    injection hfirst with hpair
    exact (Prod.mk.inj hpair).2.symm
  exact ⟨List.append_cancel_right h, rfl⟩

/-- An operand has no shorter operand in front. -/
theorem extent_operand {us vs vs' : List Token} {a b : Tree} (ha : Derives .operand us a)
    (hb : Derives .operand vs b) (h : us = vs ++ vs') : us = vs ∧ vs' = [] := by
  have heq : us ++ [] = vs ++ vs' := by rw [List.append_nil, h]
  obtain ⟨hus, hvs⟩ := extent_eq ha hb heq (ends_operand _) (ends_operand _)
  exact ⟨hus, hvs.symm⟩

/-! ## Marks -/

section

variable {k l : Keyword} {m n : Bool} {us vs us' vs' : List Token}

theorem Spells.ne_nil (h : Spells k m us) : us ≠ [] := by
  cases h <;> exact List.cons_ne_nil _ _

/-- The tokens that spell a keyword, negated or not, show which one. -/
theorem Spells.unique (hk : k ≠ .not) (hl : l ≠ .not) (hus : Spells k m us) (hvs : Spells l n vs)
    (h : us ++ us' = vs ++ vs') : k = l ∧ m = n ∧ us = vs := by
  cases hus with
  | plain ht =>
      cases hvs with
      | plain hu =>
          obtain ⟨rfl, -⟩ := List.cons.inj h
          rw [ht] at hu
          exact ⟨Option.some.inj hu, rfl, rfl⟩
      | negated hn _ =>
          obtain ⟨rfl, -⟩ := List.cons.inj h
          rw [ht] at hn
          exact absurd (Option.some.inj hn) hk
  | negated hn ht =>
      cases hvs with
      | plain hu =>
          obtain ⟨rfl, -⟩ := List.cons.inj h
          rw [hn] at hu
          exact absurd (Option.some.inj hu).symm hl
      | negated _ hu =>
          obtain ⟨rfl, htail⟩ := List.cons.inj h
          obtain ⟨rfl, -⟩ := List.cons.inj htail
          rw [ht] at hu
          exact ⟨Option.some.inj hu, rfl, rfl⟩

/-- Where a keyword is spelled no other lexeme stands. -/
theorem Spells.head_eq_word {t : Token} (h : Spells k m us) (ht : us ++ us' = t :: vs') :
    ∃ w, t.lexeme = .word w := by
  cases h with
  | plain hu =>
      obtain ⟨rfl, -⟩ := List.cons.inj ht
      exact Token.exists_word hu
  | negated hn _ =>
      obtain ⟨rfl, -⟩ := List.cons.inj ht
      exact Token.exists_word hn

theorem likeWord_ne_not (ignoreCase : Bool) : likeWord ignoreCase ≠ .not := by
  cases ignoreCase <;> decide

theorem likeWord_ne_between (ignoreCase : Bool) : likeWord ignoreCase ≠ .between := by
  cases ignoreCase <;> decide

theorem likeWord_inj {i j : Bool} (h : likeWord i = likeWord j) : i = j := by
  cases i <;> cases j <;> first | rfl | cases h

theorem Question.Spelled.ne_nil {q : Question} (h : q.Spelled us) : us ≠ [] := by
  cases h with
  | relation _ => exact List.cons_ne_nil _ _
  | matching _ => exact List.cons_ne_nil _ _
  | like h => exact h.ne_nil

/-- The first token that spells a question shows which kind of question it is. -/
theorem Question.Spelled.head_inv {q : Question} {t : Token} (h : q.Spelled us)
    (ht : us ++ us' = t :: vs') :
    match t.lexeme with
    | .relation r => q = .relation r ∧ us = [t]
    | .matching ignoreCase => q = .matching ignoreCase ∧ us = [t]
    | .word _ => ∃ ignoreCase negated : Bool,
        q = .like ignoreCase negated ∧ Spells (likeWord ignoreCase) negated us
    | _ => False := by
  cases h with
  | relation hu =>
      obtain ⟨rfl, -⟩ := List.cons.inj ht
      rw [hu]
      exact ⟨rfl, rfl⟩
  | matching hu =>
      obtain ⟨rfl, -⟩ := List.cons.inj ht
      rw [hu]
      exact ⟨rfl, rfl⟩
  | like hmarks =>
      obtain ⟨w, hw⟩ := hmarks.head_eq_word ht
      rw [hw]
      exact ⟨_, _, rfl, hmarks⟩

/-- The tokens that spell a question show which one. -/
theorem Question.Spelled.unique {p q : Question} (hus : p.Spelled us) (hvs : q.Spelled vs)
    (h : us ++ us' = vs ++ vs') : p = q ∧ us = vs := by
  obtain ⟨t, left, hleft⟩ := List.exists_cons_of_ne_nil hus.ne_nil
  have heq : us ++ us' = t :: (left ++ us') := by
    rw [hleft]
    rfl
  have hp := hus.head_inv heq
  have hq := hvs.head_inv (h.symm.trans heq)
  cases hlex : t.lexeme with
  | relation r =>
      rw [hlex] at hp hq
      exact ⟨hp.1.trans hq.1.symm, hp.2.trans hq.2.symm⟩
  | matching ignoreCase =>
      rw [hlex] at hp hq
      exact ⟨hp.1.trans hq.1.symm, hp.2.trans hq.2.symm⟩
  | word w =>
      rw [hlex] at hp hq
      obtain ⟨i, m, rfl, hi⟩ := hp
      obtain ⟨j, n, rfl, hj⟩ := hq
      obtain ⟨hword, rfl, rfl⟩ := hi.unique (likeWord_ne_not i) (likeWord_ne_not j) hj h
      rw [likeWord_inj hword]
      exact ⟨rfl, rfl⟩
  | _ =>
      rw [hlex] at hp
      exact hp.elim

/-- A question is not spelled like a range. -/
theorem Question.Spelled.not_between {q : Question} (hus : q.Spelled us)
    (hvs : Spells .between n vs) : us ++ us' ≠ vs ++ vs' := by
  intro h
  obtain ⟨t, left, hleft⟩ := List.exists_cons_of_ne_nil hus.ne_nil
  have heq : us ++ us' = t :: (left ++ us') := by
    rw [hleft]
    rfl
  obtain ⟨w, hw⟩ := hvs.head_eq_word (h.symm.trans heq)
  have hq := hus.head_inv heq
  rw [hw] at hq
  obtain ⟨i, m, -, hi⟩ := hq
  have hunique := hi.unique (likeWord_ne_not i) (by decide) hvs h
  exact likeWord_ne_between i hunique.1

end

/-! ## Trees -/

/-- The first token of an operand shows by which rule it is derived. -/
theorem Derives.operand_inv {t : Token} {us : List Token} {b : Tree}
    (h : Derives .operand (t :: us) b) :
    match t.lexeme with
    | .number v => b = .number v
    | .quoted s => b = .quoted s
    | .word w => b = .word w
    | .openBrace => ∃ (parts : List Token) (c : Token), us = parts ++ [c] ∧ b = .name parts
    | .opening => ∃ (ts : List Token) (c : Token) (a : Tree),
        us = ts ++ [c] ∧ Derives (.chain .or) ts a ∧ b = .parens a
    | _ => False := by
  generalize hts : t :: us = ts at h
  cases h with
  | number ht =>
      obtain ⟨rfl, -⟩ := List.cons.inj hts
      rw [ht]
  | quoted ht =>
      obtain ⟨rfl, -⟩ := List.cons.inj hts
      rw [ht]
  | word ht =>
      obtain ⟨rfl, -⟩ := List.cons.inj hts
      rw [ht]
  | name ho _ _ _ =>
      obtain ⟨rfl, rfl⟩ := List.cons.inj hts
      rw [ho]
      exact ⟨_, _, rfl, rfl⟩
  | parens ho ha _ =>
      obtain ⟨rfl, rfl⟩ := List.cons.inj hts
      rw [ho]
      exact ⟨_, _, _, rfl, ha, rfl⟩

/-- The tokens of a phrase have **one tree**. -/
def OneTree (cat : Category) (ts : List Token) (a : Tree) : Prop :=
  ∀ b : Tree, Derives cat ts b → b = a

/-- The tokens of a chain have one tree for each operand. -/
def OneChain (c : Connective) (ts : List Token) (a : Tree) (as : List Tree) : Prop :=
  ∀ (b : Tree) (bs : List Tree), DerivesChain c ts b bs → b = a ∧ bs = as

theorem oneTree_number {t : Token} {v : Float} (ht : t.lexeme = .number v) :
    OneTree .operand [t] (.number v) := by
  intro b hb
  have hinv := hb.operand_inv
  rwa [ht] at hinv

theorem oneTree_quoted {t : Token} {s : String} (ht : t.lexeme = .quoted s) :
    OneTree .operand [t] (.quoted s) := by
  intro b hb
  have hinv := hb.operand_inv
  rwa [ht] at hinv

theorem oneTree_word {t : Token} {w : String} (ht : t.lexeme = .word w) :
    OneTree .operand [t] (.word w) := by
  intro b hb
  have hinv := hb.operand_inv
  rwa [ht] at hinv

theorem oneTree_name {o c : Token} {parts : List Token} (ho : o.lexeme = .openBrace) :
    OneTree .operand (o :: (parts ++ [c])) (.name parts) := by
  intro b hb
  have hinv := hb.operand_inv
  rw [ho] at hinv
  obtain ⟨parts', c', heq, rfl⟩ := hinv
  rw [List.append_inj_left' heq rfl]

theorem oneTree_parens {o c : Token} {ts : List Token} {a : Tree} (ho : o.lexeme = .opening)
    (ha : OneTree (.chain .or) ts a) : OneTree .operand (o :: (ts ++ [c])) (.parens a) := by
  intro b hb
  have hinv := hb.operand_inv
  rw [ho] at hinv
  obtain ⟨ts', c', a', heq, ha', rfl⟩ := hinv
  obtain rfl := List.append_inj_left' heq rfl
  rw [ha a' ha']

theorem oneTree_plain {ts : List Token} {a : Tree} (h : Derives .operand ts a)
    (ha : OneTree .operand ts a) : OneTree .comparison ts a := by
  intro b hb
  -- a question would make the comparison longer than its first operand
  cases hb with
  | plain hb => exact ha b hb
  | ask hb hq _ =>
      have hextent := extent_operand h hb rfl
      exact absurd (List.append_eq_nil_iff.mp hextent.2).1 hq.ne_nil
  | between hb hmarks _ _ _ =>
      have hextent := extent_operand h hb rfl
      exact absurd (List.append_eq_nil_iff.mp hextent.2).1 hmarks.ne_nil

theorem oneTree_ask {q : Question} {us marks vs : List Token} {a b : Tree}
    (h : Derives .operand us a) (ha : OneTree .operand us a) (hq : q.Spelled marks)
    (hb : OneTree .operand vs b) :
    OneTree .comparison (us ++ (marks ++ vs)) (.ask q a b) := by
  intro c hc
  -- both derivations have the same first operand, and then the same question
  generalize hts : us ++ (marks ++ vs) = ts at hc
  cases hc with
  | plain hc =>
      have hextent := extent_operand hc h hts.symm
      exact absurd (List.append_eq_nil_iff.mp hextent.2).1 hq.ne_nil
  | ask hc hp hd =>
      obtain ⟨rfl, hmarks⟩ := extent_eq h hc hts (ends_operand _) (ends_operand _)
      obtain ⟨rfl, rfl⟩ := hq.unique hp hmarks
      obtain rfl := List.append_cancel_left hmarks
      rw [ha _ hc, hb _ hd]
  | between hc hmarks _ _ _ =>
      obtain ⟨rfl, heq⟩ := extent_eq h hc hts (ends_operand _) (ends_operand _)
      exact absurd heq (hq.not_between hmarks)

theorem oneTree_between {negated : Bool} {us marks vs ws : List Token} {t : Token}
    {a low high : Tree} (h : Derives .operand us a) (ha : OneTree .operand us a)
    (hmarks : Spells .between negated marks) (hlow : Derives .operand vs low)
    (hlowOne : OneTree .operand vs low) (hhigh : OneTree .operand ws high) :
    OneTree .comparison (us ++ (marks ++ (vs ++ t :: ws))) (.between negated a low high) := by
  intro c hc
  -- the parts of the range are found one after the other, from the left
  generalize hts : us ++ (marks ++ (vs ++ t :: ws)) = ts at hc
  cases hc with
  | plain hc =>
      have hextent := extent_operand hc h hts.symm
      exact absurd (List.append_eq_nil_iff.mp hextent.2).1 hmarks.ne_nil
  | ask hc hp _ =>
      obtain ⟨rfl, heq⟩ := extent_eq h hc hts (ends_operand _) (ends_operand _)
      exact absurd heq.symm (hp.not_between hmarks)
  | between hc hmarks' hd _ he =>
      obtain ⟨rfl, heq⟩ := extent_eq h hc hts (ends_operand _) (ends_operand _)
      obtain ⟨-, rfl, rfl⟩ := hmarks.unique (by decide) (by decide) hmarks' heq
      have hbounds := List.append_cancel_left heq
      obtain ⟨rfl, htail⟩ := extent_eq hlow hd hbounds (ends_operand _) (ends_operand _)
      obtain ⟨-, rfl⟩ := List.cons.inj htail
      rw [ha _ hc, hlowOne _ hd, hhigh _ he]

theorem oneTree_not {t : Token} {ts : List Token} {a : Tree} (ht : t.keyword? = some .not)
    (ha : OneTree .negation ts a) : OneTree .negation (t :: ts) (.not a) := by
  intro b hb
  generalize hts : t :: ts = us at hb
  cases hb with
  | not _ hb =>
      obtain ⟨-, rfl⟩ := List.cons.inj hts
      rw [ha _ hb]
  | asserted _ hhead =>
      rw [← hts] at hhead
      exact absurd ht (hhead t rfl)

theorem oneTree_asserted {ts : List Token} {a : Tree}
    (hts : ∀ t ∈ ts.head?, t.keyword? ≠ some .not) (ha : OneTree .comparison ts a) :
    OneTree .negation ts a := by
  intro b hb
  cases hb with
  | not ht _ => exact absurd ht (hts _ rfl)
  | asserted hb _ => exact ha b hb

theorem oneChain_last {c : Connective} {ts : List Token} {a : Tree} (h : Derives c.part ts a)
    (ha : OneTree c.part ts a) : OneChain c ts a [] := by
  intro b bs hb
  cases hb with
  | last hb => exact ⟨ha b hb, rfl⟩
  | more hb ht _ =>
      obtain ⟨-, hrest⟩ := extent_eq h hb (List.append_nil _) (ends_nil _) (ends_keyword ht _)
      cases hrest

theorem oneChain_more {c : Connective} {ts us : List Token} {t : Token} {a b : Tree}
    {bs : List Tree} (h : Derives c.part ts a) (ha : OneTree c.part ts a)
    (ht : t.keyword? = some c.keyword) (hbs : OneChain c us b bs) :
    OneChain c (ts ++ t :: us) a (b :: bs) := by
  intro d ds hd
  -- each operand ends in front of its connective, in both derivations
  generalize hts : ts ++ t :: us = vs at hd
  cases hd with
  | last hd =>
      obtain ⟨-, hrest⟩ := extent_eq hd h ((List.append_nil _).trans hts.symm) (ends_nil _)
        (ends_keyword ht _)
      cases hrest
  | more hd hu hds =>
      obtain ⟨rfl, htail⟩ := extent_eq h hd hts (ends_keyword ht _) (ends_keyword hu _)
      obtain ⟨-, rfl⟩ := List.cons.inj htail
      obtain ⟨rfl, rfl⟩ := hbs _ _ hds
      exact ⟨ha _ hd, rfl⟩

mutual

theorem oneTree_of_derives : ∀ {cat : Category} {ts : List Token} {a : Tree},
    Derives cat ts a → OneTree cat ts a
  | _, _, _, .number ht => oneTree_number ht
  | _, _, _, .quoted ht => oneTree_quoted ht
  | _, _, _, .word ht => oneTree_word ht
  | _, _, _, .name ho _ _ _ => oneTree_name ho
  | _, _, _, .parens ho ha _ => oneTree_parens ho (oneTree_of_derives ha)
  | _, _, _, .plain ha => oneTree_plain ha (oneTree_of_derives ha)
  | _, _, _, .ask ha hq hb => oneTree_ask ha (oneTree_of_derives ha) hq (oneTree_of_derives hb)
  | _, _, _, .between ha hmarks hlow _ hhigh =>
      oneTree_between ha (oneTree_of_derives ha) hmarks hlow (oneTree_of_derives hlow)
        (oneTree_of_derives hhigh)
  | _, _, _, .not ht ha => oneTree_not ht (oneTree_of_derives ha)
  | _, _, _, .asserted ha hts => oneTree_asserted hts (oneTree_of_derives ha)
  | _, _, _, .chain h => by
      intro b hb
      cases hb with
      | chain hb =>
          obtain ⟨rfl, rfl⟩ := oneChain_of_derives h _ _ hb
          rfl

theorem oneChain_of_derives : ∀ {c : Connective} {ts : List Token} {a : Tree} {as : List Tree},
    DerivesChain c ts a as → OneChain c ts a as
  | _, _, _, _, .last ha => oneChain_last ha (oneTree_of_derives ha)
  | _, _, _, _, .more ha ht hbs =>
      oneChain_more ha (oneTree_of_derives ha) ht (oneChain_of_derives hbs)

end

/-- **The grammar is unambiguous**: the tokens of a phrase have one derivation tree. -/
theorem eq_of_derives {cat : Category} {ts : List Token} {a b : Tree} (ha : Derives cat ts a)
    (hb : Derives cat ts b) : a = b :=
  oneTree_of_derives hb a ha

end Tabular.Condition
