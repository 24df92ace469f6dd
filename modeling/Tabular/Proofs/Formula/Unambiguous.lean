import Tabular.Proofs.Formula.Grammar

set_option autoImplicit false

/-! # The grammar of formulas is unambiguous

If two phrases of one level begin the same list of tokens, and each takes in all it can, then they
are the same phrase with the same tree (`eq_of_derives`). The proof is by induction on the number
of tokens and down the levels. A binary level is left-recursive, so there a derivation is first
turned into a `Chain`: a phrase of the next level and then, from left to right, each operator of
this level with its right operand.
-/

namespace Tabular.Formula

/-! ## Chains -/

/-- **A chain** takes a tree through operators of one level, each with its right operand. -/
inductive Chain (d : Dialect) (l : Nat) : Tree → List Token → Tree → Prop
  | nil {a : Tree} : Chain d l a [] a
  | cons {a b c : Tree} {o : Operator} {sign : Token} {bs rest : List Token} :
      o ≠ .pow → o.strength = l → sign.lexeme = .operator o → Derives d (l + 1) bs b →
      Chain d l (.binary o a b) rest c → Chain d l a (sign :: (bs ++ rest)) c

namespace Chain

variable {d : Dialect} {l : Nat} {a b c : Tree} {ts : List Token}

/-- A chain can be made longer at its end. -/
theorem snoc {o : Operator} {sign : Token} {bs : List Token} (h : Chain d l a ts b)
    (hpow : o ≠ .pow) (hs : o.strength = l) (hsign : sign.lexeme = .operator o)
    (hc : Derives d (l + 1) bs c) : Chain d l a (ts ++ sign :: bs) (.binary o b c) := by
  induction h with
  | nil => simpa using Chain.cons hpow hs hsign hc .nil
  | cons hpow' hs' hsign' hb _ ih =>
      have := Chain.cons hpow' hs' hsign' hb ih
      simpa using this

/-- Whatever follows a chain or an operand in it starts with an operator of the level at most. -/
theorem stops {r : List Token} (h : Chain d l a ts b) (hr : Stops l r) :
    Stops (l + 1) (ts ++ r) := by
  cases h with
  | nil => exact hr.mono (Nat.le_succ l)
  | cons _ hs hsign _ _ =>
      rw [List.cons_append, stops_cons_operator hsign]
      omega

end Chain

/-- A phrase of a binary level is a phrase of the next level and a chain. -/
theorem exists_chain {d : Dialect} {l : Nat} (hl : l ≤ 4) :
    ∀ {ts : List Token} {a : Tree}, Derives d l ts a →
      ∃ (as rest : List Token) (b : Tree),
        ts = as ++ rest ∧ Derives d (l + 1) as b ∧ Chain d l b rest a := by
  intro ts
  induction hlen : ts.length using Nat.strongRecOn generalizing ts with
  | ind n ih =>
      intro a h
      rcases h.binary_inv hl with h | ⟨o, sign, bs, cs, b, c, rfl, rfl, hpow, hs, -, hb, hsign, hc⟩
      · exact ⟨ts, [], a, by simp, h, .nil⟩
      · have hshort : bs.length < n := by
          rw [List.length_append, List.length_cons] at hlen
          omega
        obtain ⟨as, rest, first, rfl, hfirst, hchain⟩ := ih bs.length hshort rfl hb
        exact ⟨as, rest ++ sign :: cs, first, by simp, hfirst, hchain.snoc hpow hs hsign hc⟩

/-! ## One level after the other

Each lemma takes for granted that shorter lists of tokens have been dealt with. -/

/-- At most one phrase of a level that takes in all it can begins a list of tokens. -/
def Determined (d : Dialect) (l : Nat) (ts : List Token) : Prop :=
  ∀ (as bs r s : List Token) (a b : Tree), as ++ r = ts → bs ++ s = ts → Derives d l as a →
    Derives d l bs b → Stops l r → Stops l s → as = bs ∧ a = b

/-- Every list of fewer than `n` tokens is determined at every level. -/
def DeterminedBelow (d : Dialect) (n : Nat) : Prop :=
  ∀ ts : List Token, ts.length < n → ∀ l : Nat, Determined d l ts

section determined

variable {d : Dialect} {l n : Nat} {ts : List Token}

/-- Two chains from the same tree through the same tokens are equal. -/
theorem Chain.determined (ih : DeterminedBelow d n) {a b : Tree} {us : List Token}
    (h : Chain d l a us b) :
    ∀ {vs r s : List Token} {c : Tree}, Chain d l a vs c → us ++ r = vs ++ s →
      (us ++ r).length ≤ n → Stops l r → Stops l s → us = vs ∧ b = c := by
  induction h with
  | nil =>
      intro vs r s c hc heq hn hr hs
      cases hc with
      | nil => exact ⟨rfl, rfl⟩
      | cons _ hl hsign _ _ =>
          rw [List.nil_append, List.cons_append] at heq
          rw [heq, stops_cons_operator hsign] at hr
          omega
  | @cons a b _ o sign bs rest hpow hl hsign hb hrest ihc =>
      intro vs r s c hc heq hn hr hs
      cases hc with
      | nil =>
          rw [List.nil_append, List.cons_append] at heq
          rw [← heq, stops_cons_operator hsign] at hs
          omega
      | @cons _ b' _ o' sign' bs' rest' hpow' hl' hsign' hb' hrest' =>
          simp only [List.cons_append, List.append_assoc, List.cons.injEq] at heq
          obtain ⟨rfl, heq⟩ := heq
          obtain rfl : o = o' := by
            rw [hsign] at hsign'
            injection hsign'
          have hlength : (bs ++ (rest ++ r)).length < n := by
            simp only [List.length_cons, List.length_append] at hn ⊢
            omega
          have hshort : (rest ++ r).length ≤ n := by
            rw [List.length_append] at hlength
            omega
          obtain ⟨rfl, rfl⟩ := ih _ hlength (l + 1) bs bs' _ _ b b' rfl heq.symm hb hb'
            (hrest.stops hr) (hrest'.stops hs)
          rw [List.append_cancel_left_eq] at heq
          obtain ⟨rfl, rfl⟩ := ihc hrest' heq hshort hr hs
          exact ⟨rfl, rfl⟩

theorem determined_binary (hl : l ≤ 4) (ih : DeterminedBelow d ts.length)
    (hnext : Determined d (l + 1) ts) : Determined d l ts := by
  intro as bs r s a b has hbs ha hb hr hs
  obtain ⟨as, arest, a', rfl, ha', hachain⟩ := exists_chain hl ha
  obtain ⟨bs, brest, b', rfl, hb', hbchain⟩ := exists_chain hl hb
  rw [List.append_assoc] at has hbs
  obtain ⟨rfl, rfl⟩ := hnext as bs _ _ a' b' has hbs ha' hb' (hachain.stops hr) (hbchain.stops hs)
  have heq : arest ++ r = brest ++ s := List.append_cancel_left (has.trans hbs.symm)
  have hlength : (arest ++ r).length ≤ ts.length := by
    simp only [← has, List.length_append]
    omega
  obtain ⟨rfl, rfl⟩ := hachain.determined ih hbchain heq hlength hr hs
  exact ⟨rfl, rfl⟩

/-- The arguments of a function are determined up to the parenthesis that closes them. -/
theorem determined_arguments (ih : DeterminedBelow d n) {arguments : List Tree} :
    ∀ {as bs r s : List Token} {closed closed' : Token} {others : List Tree},
      DerivesAll d as arguments → DerivesAll d bs others →
      as ++ closed :: r = bs ++ closed' :: s → (as ++ closed :: r).length < n →
      closed.lexeme = .closing → closed'.lexeme = .closing → as = bs ∧ arguments = others := by
  induction arguments with
  | nil =>
      intro as bs r s closed closed' others ha
      cases ha
  | cons a rest ihr =>
      intro as bs r s closed closed' others ha hb heq hn hclosed hclosed'
      cases ha with
      | last ha =>
          cases hb with
          | last hb =>
              obtain ⟨rfl, rfl⟩ := ih _ hn 0 as bs _ _ a _ rfl heq.symm ha hb
                (stops_closing hclosed 0 _) (stops_closing hclosed' 0 _)
              exact ⟨rfl, rfl⟩
          | @more comma cs ds b _ hb hcomma _ =>
              rw [List.append_assoc, List.cons_append] at heq
              obtain ⟨rfl, rfl⟩ := ih _ hn 0 as cs _ _ a b rfl heq.symm ha hb
                (stops_closing hclosed 0 _) (stops_comma hcomma 0 _)
              obtain ⟨rfl, -⟩ := List.cons.inj (List.append_cancel_left heq)
              rw [hclosed] at hcomma
              cases hcomma
      | @more comma as' as'' _ _ ha hcomma hrest =>
          rw [List.append_assoc, List.cons_append] at heq hn
          cases hb with
          | last hb =>
              obtain ⟨rfl, rfl⟩ := ih _ hn 0 as' bs _ _ a _ rfl heq.symm ha hb
                (stops_comma hcomma 0 _) (stops_closing hclosed' 0 _)
              obtain ⟨rfl, -⟩ := List.cons.inj (List.append_cancel_left heq)
              rw [hclosed'] at hcomma
              cases hcomma
          | @more comma' cs ds b others hb hcomma' hrest' =>
              rw [List.append_assoc, List.cons_append] at heq
              obtain ⟨rfl, rfl⟩ := ih _ hn 0 as' cs _ _ a b rfl heq.symm ha hb
                (stops_comma hcomma 0 _) (stops_comma hcomma' 0 _)
              obtain ⟨rfl, htail⟩ := List.cons.inj (List.append_cancel_left heq)
              have hshort : (as'' ++ closed :: r).length < n := by
                simp only [List.length_append, List.length_cons] at hn ⊢
                omega
              obtain ⟨rfl, rfl⟩ := ihr hrest hrest' htail hshort hclosed hclosed'
              exact ⟨rfl, rfl⟩

/-- The first token of an atom determines which rule it is by. -/
theorem determined_atom (ih : DeterminedBelow d ts.length) : Determined d 7 ts := by
  intro as bs r s a b has hbs ha hb _ _
  obtain ⟨t, us, rfl, hus⟩ := ha.atom_inv
  obtain ⟨t', vs, rfl, hvs⟩ := hb.atom_inv
  obtain ⟨rfl, heq⟩ : t = t' ∧ us ++ r = vs ++ s := List.cons.inj (has.trans hbs.symm)
  cases hlex : t.lexeme with
  | number v =>
      simp only [hlex] at hus hvs
      obtain ⟨rfl, rfl⟩ := hus
      obtain ⟨rfl, rfl⟩ := hvs
      exact ⟨rfl, rfl⟩
  | column name =>
      simp only [hlex] at hus hvs
      obtain ⟨rfl, rfl⟩ := hus
      obtain ⟨rfl, rfl⟩ := hvs
      exact ⟨rfl, rfl⟩
  | opening =>
      simp only [hlex] at hus hvs
      obtain ⟨us, closed, a, rfl, rfl, ha', hclosed⟩ := hus
      obtain ⟨vs, closed', b, rfl, rfl, hb', hclosed'⟩ := hvs
      simp only [List.append_assoc, List.singleton_append] at heq
      have hshort : (us ++ closed :: r).length < ts.length := by
        simp only [← has, List.length_append, List.length_cons, List.length_nil]
        omega
      obtain ⟨rfl, rfl⟩ := ih (us ++ closed :: r) hshort 0 us vs _ _ a b rfl heq.symm ha' hb'
        (stops_closing hclosed 0 _) (stops_closing hclosed' 0 _)
      obtain ⟨rfl, -⟩ := List.cons.inj (List.append_cancel_left heq)
      exact ⟨rfl, rfl⟩
  | function f =>
      simp only [hlex] at hus hvs
      obtain ⟨opened, closed, us, arguments, rfl, rfl, hall, hclosed⟩ := hus
      obtain ⟨opened', closed', vs, others, rfl, rfl, hall', hclosed'⟩ := hvs
      simp only [List.cons_append, List.append_assoc, List.nil_append] at heq
      obtain ⟨rfl, htail⟩ := List.cons.inj heq
      have hshort : (us ++ closed :: r).length < ts.length := by
        simp only [← has, List.length_append, List.length_cons, List.length_nil]
        omega
      obtain ⟨rfl, rfl⟩ := determined_arguments ih hall hall' htail hshort hclosed hclosed'
      obtain ⟨rfl, -⟩ := List.cons.inj (List.append_cancel_left htail)
      exact ⟨rfl, rfl⟩
  | _ => simp [hlex] at hus

/-- A sign at the front starts a phrase of the level of signs, and nothing tighter. -/
theorem determined_sign (ih : DeterminedBelow d ts.length) (hnext : Determined d 6 ts) :
    Determined d 5 ts := by
  intro as bs r s a b has hbs ha hb hr hs
  -- a phrase of the next level has no sign at its front
  have hfront : ∀ {as us r s : List Token} {a : Tree} {sign : Token}, Derives d 6 as a →
      as ++ r = sign :: (us ++ s) → ∀ o : Operator, sign.lexeme ≠ .operator o := by
    intro as us r s a sign ha heq
    obtain ⟨t, as, rfl, ht⟩ := ha.head_ne_operator (Nat.le_refl 6)
    obtain ⟨rfl, -⟩ := List.cons.inj heq
    exact ht
  rcases ha.sign_inv with ha | ⟨sign, us, a, rfl, ha', hsign⟩ <;>
    rcases hb.sign_inv with hb | ⟨sign', vs, b, rfl, hb', hsign'⟩
  · exact hnext as bs r s a b has hbs ha hb (hr.mono (by decide)) (hs.mono (by decide))
  · have hne := hfront ha (has.trans hbs.symm)
    rcases hsign' with ⟨h, -⟩ | ⟨h, -⟩ <;> exact absurd h (hne _)
  · have hne := hfront hb (hbs.trans has.symm)
    rcases hsign with ⟨h, -⟩ | ⟨h, -⟩ <;> exact absurd h (hne _)
  · obtain ⟨rfl, heq⟩ := List.cons.inj (has.trans hbs.symm)
    have hshort : (us ++ r).length < ts.length := by
      rw [← has, List.cons_append, List.length_cons]
      omega
    obtain ⟨rfl, rfl⟩ := ih (us ++ r) hshort 5 us vs r s a b rfl heq.symm ha' hb' hr hs
    refine ⟨rfl, ?_⟩
    rcases hsign with ⟨h, rfl⟩ | ⟨h, rfl⟩ <;> rcases hsign' with ⟨h', rfl⟩ | ⟨h', rfl⟩
    · rfl
    · rw [h] at h'
      cases h'
    · rw [h] at h'
      cases h'
    · rfl

/-- An exponent belongs to the atom before it. -/
theorem determined_power (ih : DeterminedBelow d ts.length) (hnext : Determined d 7 ts) :
    Determined d 6 ts := by
  intro as bs r s a b has hbs ha hb hr hs
  have hrest : ∀ {r : List Token}, Stops 6 r → Stops 7 r := fun h => h.mono (by decide)
  have hcaret : ∀ {t : Token} {us : List Token}, t.lexeme = .operator .pow →
      Stops 7 (t :: us) ∧ ¬ Stops 6 (t :: us) := by
    intro t us h
    rw [stops_cons_operator h, stops_cons_operator h]
    decide
  rcases ha.power_inv with ha | ⟨caret, as, us, a, u, rfl, rfl, ha, hlex, hu⟩ <;>
    rcases hb.power_inv with hb | ⟨caret', bs, vs, b, v, rfl, rfl, hb, hlex', hv⟩
  · exact hnext as bs r s a b has hbs ha hb (hrest hr) (hrest hs)
  · rw [List.append_assoc, List.cons_append] at hbs
    obtain ⟨rfl, rfl⟩ := hnext as bs r _ a b has hbs ha hb (hrest hr) (hcaret hlex').1
    rw [List.append_cancel_left (has.trans hbs.symm)] at hr
    exact absurd hr (hcaret hlex').2
  · rw [List.append_assoc, List.cons_append] at has
    obtain ⟨rfl, rfl⟩ := hnext as bs _ s a b has hbs ha hb (hcaret hlex).1 (hrest hs)
    rw [← List.append_cancel_left (has.trans hbs.symm)] at hs
    exact absurd hs (hcaret hlex).2
  · rw [List.append_assoc, List.cons_append] at has hbs
    obtain ⟨rfl, rfl⟩ := hnext as bs _ _ a b has hbs ha hb (hcaret hlex).1 (hcaret hlex').1
    have heq := List.append_cancel_left (has.trans hbs.symm)
    rw [List.cons.injEq] at heq
    obtain ⟨rfl, heq⟩ := heq
    have hshort : (us ++ r).length < ts.length := by
      simp only [← has, List.length_append, List.length_cons]
      omega
    obtain ⟨rfl, rfl⟩ := ih (us ++ r) hshort 5 us vs r s u v rfl heq.symm hu hv hr.five hs.five
    exact ⟨rfl, rfl⟩

end determined

/-- Every list of tokens is determined at every level. -/
theorem determined (d : Dialect) (ts : List Token) (l : Nat) : Determined d l ts := by
  induction hlen : ts.length using Nat.strongRecOn generalizing ts l with
  | ind n ihn =>
      have ih : DeterminedBelow d ts.length := fun us hus l => ihn us.length (hlen ▸ hus) us l rfl
      have hatom := determined_atom ih
      have hsign := determined_sign ih (determined_power ih hatom)
      by_cases hl : l ≤ 5
      · exact of_level_signs (P := fun l => Determined d l ts) hsign
          (fun _ hk hnext => determined_binary hk ih hnext) hl
      · intro as bs r s a b has hbs ha hb hr hs
        have := ha.level_le_seven
        by_cases hpower : l = 6
        · subst hpower
          exact determined_power ih hatom as bs r s a b has hbs ha hb hr hs
        · obtain rfl : l = 7 := by omega
          exact hatom as bs r s a b has hbs ha hb hr hs

/-- **The grammar is unambiguous**: the tokens of a phrase have one derivation tree. -/
theorem eq_of_derives {d : Dialect} {l : Nat} {ts : List Token} {a b : Tree}
    (ha : Derives d l ts a) (hb : Derives d l ts b) : a = b :=
  (determined d ts l ts ts [] [] a b (by simp) (by simp) ha hb trivial trivial).2

end Tabular.Formula
