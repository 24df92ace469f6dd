import Tabular.Formula.Postfix
import Tabular.Formula.Token

set_option autoImplicit false

/-! # The grammar of formulas

A formula is a phrase of level 0 of a grammar with eight levels. Levels 0 to 4 are those of the
binary operators of that strength other than the power, which group from the left; level 5 is that
of signs, level 6 that of powers and level 7 that of atoms:

    level l (l ≤ 4)  :=  level l, operator of strength l, level (l + 1)  |  level (l + 1)
    level 5          :=  '+' level 5  |  '-' level 5  |  level 6
    level 6          :=  level 7 '^' level 5  |  level 7
    level 7          :=  number  |  column  |  '(' level 0 ')'
                         |  function '(' as many phrases of level 0, with commas between, ')'

`Derives` is this grammar as a relation between tokens and derivation trees (`Tree`). A tree keeps
every parenthesis and sign, so that it determines its derivation; `Tree.steps` is its postfix
order, in which parentheses and the sign `+` leave no trace and `-a` is the difference `0 - a`.
-/

namespace Tabular.Formula

/-! ## Derivation trees -/

/-- A **derivation tree** of a formula: one node for each rule that takes in a token. -/
inductive Tree where
  | number (v : Float)
  | column (name : String)
  | parens (a : Tree)
  | call (f : Function) (arguments : List Tree)
  | plus (a : Tree)
  | minus (a : Tree)
  | binary (o : Operator) (a b : Tree)

mutual

/-- The postfix order of a derivation tree. -/
def Tree.steps : Tree → List Step
  | .number v => [.number v]
  | .column name => [.column name]
  | .parens a => a.steps
  | .call f arguments => Tree.stepsAll arguments ++ [.function f]
  | .plus a => a.steps
  | .minus a => .number 0 :: a.steps ++ [.operator .sub]
  | .binary o a b => a.steps ++ b.steps ++ [.operator o]

/-- The postfix orders of some trees, one after the other. -/
def Tree.stepsAll : List Tree → List Step
  | [] => []
  | a :: rest => a.steps ++ Tree.stepsAll rest

end

/-! ## Derivations -/

mutual

/-- **The grammar of a dialect**: some tokens form a phrase of a level, with a derivation tree. -/
inductive Derives (d : Dialect) : Nat → List Token → Tree → Prop
  | number {t : Token} {v : Float} : t.lexeme = .number v → Derives d 7 [t] (.number v)
  | column {t : Token} {name : String} : t.lexeme = .column name → Derives d 7 [t] (.column name)
  | parens {opened closed : Token} {ts : List Token} {a : Tree} :
      opened.lexeme = .opening → Derives d 0 ts a → closed.lexeme = .closing →
      Derives d 7 (opened :: (ts ++ [closed])) (.parens a)
  | call {word opened closed : Token} {f : Function} {ts : List Token} {arguments : List Tree} :
      word.lexeme = .function f → opened.lexeme = .opening → DerivesAll d ts arguments →
      arguments.length = f.arity → closed.lexeme = .closing →
      Derives d 7 (word :: opened :: (ts ++ [closed])) (.call f arguments)
  | power {caret : Token} {as bs : List Token} {a b : Tree} :
      Derives d 7 as a → caret.lexeme = .operator .pow → Derives d 5 bs b →
      Derives d 6 (as ++ caret :: bs) (.binary .pow a b)
  | plus {sign : Token} {ts : List Token} {a : Tree} :
      sign.lexeme = .operator .add → Derives d 5 ts a → Derives d 5 (sign :: ts) (.plus a)
  | minus {sign : Token} {ts : List Token} {a : Tree} :
      sign.lexeme = .operator .sub → Derives d 5 ts a → Derives d 5 (sign :: ts) (.minus a)
  | binary {l : Nat} {o : Operator} {sign : Token} {as bs : List Token} {a b : Tree} :
      o ≠ .pow → o.strength = l → d.admits o = true →
      Derives d l as a → sign.lexeme = .operator o → Derives d (l + 1) bs b →
      Derives d l (as ++ sign :: bs) (.binary o a b)
  | tighter {l : Nat} {ts : List Token} {a : Tree} : Derives d (l + 1) ts a → Derives d l ts a

/-- Some tokens form phrases of level 0 with commas between them. -/
inductive DerivesAll (d : Dialect) : List Token → List Tree → Prop
  | last {ts : List Token} {a : Tree} : Derives d 0 ts a → DerivesAll d ts [a]
  | more {comma : Token} {as bs : List Token} {a : Tree} {rest : List Tree} :
      Derives d 0 as a → comma.lexeme = .comma → DerivesAll d bs rest →
      DerivesAll d (as ++ comma :: bs) (a :: rest)

end

/-- **What may follow** a phrase of a level that takes in all it can: nothing, a comma, a closing
parenthesis or an operator that binds more loosely. -/
def Stops (l : Nat) : List Token → Prop
  | [] => True
  | t :: _ =>
    match t.lexeme with
    | .operator o => o.strength < l
    | .closing | .comma => True
    | _ => False

theorem stops_cons_operator {l : Nat} {t : Token} {ts : List Token} {o : Operator}
    (h : t.lexeme = .operator o) : Stops l (t :: ts) ↔ o.strength < l := by
  simp [Stops, h]

theorem stops_closing {t : Token} (h : t.lexeme = .closing) (l : Nat) (ts : List Token) :
    Stops l (t :: ts) := by
  simp [Stops, h]

theorem stops_comma {t : Token} (h : t.lexeme = .comma) (l : Nat) (ts : List Token) :
    Stops l (t :: ts) := by
  simp [Stops, h]

/-- Only an operator at the front makes a difference between levels. -/
theorem Stops.change {k l : Nat} {ts : List Token} (h : Stops k ts)
    (hop : ∀ t us o, ts = t :: us → t.lexeme = .operator o → o.strength < k → o.strength < l) :
    Stops l ts := by
  cases ts with
  | nil => trivial
  | cons t us =>
      cases hlex : t.lexeme with
      | operator o =>
          rw [stops_cons_operator hlex] at h ⊢
          exact hop t us o rfl hlex h
      | closing => exact stops_closing hlex l us
      | comma => exact stops_comma hlex l us
      | _ => simp [Stops, hlex] at h

theorem Stops.mono {k l : Nat} {ts : List Token} (h : Stops k ts) (hk : k ≤ l) : Stops l ts :=
  h.change fun _ _ _ _ _ ho => Nat.lt_of_lt_of_le ho hk

/-- No operator has the strength 5. -/
theorem Stops.five {ts : List Token} (h : Stops 6 ts) : Stops 5 ts := by
  refine h.change fun _ _ o _ _ ho => ?_
  cases o <;> simp [Operator.strength] at ho ⊢

/-- An operator other than the power binds at most as strongly as `*`. -/
theorem Operator.strength_le_four {o : Operator} (h : o ≠ .pow) : o.strength ≤ 4 := by
  cases o with
  | pow => exact absurd rfl h
  | _ => decide

theorem Operator.strength_le_six (o : Operator) : o.strength ≤ 6 := by
  cases o <;> decide

/-- What holds at the level of signs, and at a binary level when it holds at the next one, holds at
all these levels. -/
theorem of_level_signs {P : Nat → Prop} (hsign : P 5) (hnext : ∀ l, l ≤ 4 → P (l + 1) → P l)
    {l : Nat} (hl : l ≤ 5) : P l := by
  -- by induction on the number of levels in between
  obtain ⟨k, hk⟩ : ∃ k, l + k = 5 := ⟨5 - l, by omega⟩
  induction k generalizing l with
  | zero =>
      obtain rfl : l = 5 := by omega
      exact hsign
  | succ k ih => exact hnext l (by omega) (ih (by omega) (by omega))

namespace Derives

variable {d : Dialect} {l : Nat} {ts : List Token} {a : Tree}

/-- No phrase has a level above 7. -/
theorem level_le_seven : ∀ {l : Nat} {ts : List Token} {a : Tree}, Derives d l ts a → l ≤ 7
  | _, _, _, .number _ | _, _, _, .column _ | _, _, _, .parens .. | _, _, _, .call .. => by omega
  | _, _, _, .power .. | _, _, _, .plus .. | _, _, _, .minus .. => by omega
  | _, _, _, .binary hpow hl .. => by
      have := Operator.strength_le_four hpow
      omega
  | _, _, _, .tighter h => by
      have := level_le_seven h
      omega

/-- A phrase of a binary level that is no phrase of the next level is two phrases with an operator
of this strength between them. -/
theorem binary_inv (hl : l ≤ 4) (h : Derives d l ts a) :
    Derives d (l + 1) ts a ∨ ∃ (o : Operator) (sign : Token) (bs cs : List Token) (b c : Tree),
      ts = bs ++ sign :: cs ∧ a = .binary o b c ∧ o ≠ .pow ∧ o.strength = l ∧ d.admits o = true ∧
      Derives d l bs b ∧ sign.lexeme = .operator o ∧ Derives d (l + 1) cs c := by
  cases h with
  | number | column | parens | call | power | plus | minus => omega
  | binary hpow hs hd hb hsign hc =>
      exact .inr ⟨_, _, _, _, _, _, rfl, rfl, hpow, hs, hd, hb, hsign, hc⟩
  | tighter h => exact .inl h

/-- A phrase of the level of signs is a power, or a sign and a phrase of that level. -/
theorem sign_inv (h : Derives d 5 ts a) :
    Derives d 6 ts a ∨ ∃ (sign : Token) (us : List Token) (b : Tree), ts = sign :: us ∧
      Derives d 5 us b ∧ (sign.lexeme = .operator .add ∧ a = .plus b ∨
        sign.lexeme = .operator .sub ∧ a = .minus b) := by
  cases h with
  | plus hsign hb => exact .inr ⟨_, _, _, rfl, hb, .inl ⟨hsign, rfl⟩⟩
  | minus hsign hb => exact .inr ⟨_, _, _, rfl, hb, .inr ⟨hsign, rfl⟩⟩
  | binary hpow hs =>
      have := Operator.strength_le_four hpow
      omega
  | tighter h => exact .inl h

/-- A power is an atom, or an atom with its exponent. -/
theorem power_inv (h : Derives d 6 ts a) :
    Derives d 7 ts a ∨ ∃ (caret : Token) (bs cs : List Token) (b c : Tree),
      ts = bs ++ caret :: cs ∧ a = .binary .pow b c ∧
      Derives d 7 bs b ∧ caret.lexeme = .operator .pow ∧ Derives d 5 cs c := by
  cases h with
  | power hb hcaret hc => exact .inr ⟨_, _, _, _, _, rfl, rfl, hb, hcaret, hc⟩
  | binary hpow hs =>
      have := Operator.strength_le_four hpow
      omega
  | tighter h => exact .inl h

/-- The first token of an atom says what the atom is. -/
theorem atom_inv (h : Derives d 7 ts a) :
    ∃ (t : Token) (us : List Token), ts = t :: us ∧
      match t.lexeme with
      | .number v => us = [] ∧ a = .number v
      | .column name => us = [] ∧ a = .column name
      | .opening => ∃ (bs : List Token) (closed : Token) (b : Tree),
          us = bs ++ [closed] ∧ a = .parens b ∧ Derives d 0 bs b ∧ closed.lexeme = .closing
      | .function f => ∃ (opened closed : Token) (bs : List Token) (arguments : List Tree),
          us = opened :: (bs ++ [closed]) ∧ a = .call f arguments ∧ DerivesAll d bs arguments ∧
          closed.lexeme = .closing
      | _ => False := by
  cases h with
  | number hlex => exact ⟨_, [], rfl, by simp [hlex]⟩
  | column hlex => exact ⟨_, [], rfl, by simp [hlex]⟩
  | parens hlex hb hclosed =>
      refine ⟨_, _, rfl, ?_⟩
      simp only [hlex]
      exact ⟨_, _, _, rfl, rfl, hb, hclosed⟩
  | call hlex _ hall _ hclosed =>
      refine ⟨_, _, rfl, ?_⟩
      simp only [hlex]
      exact ⟨_, _, _, _, rfl, rfl, hall, hclosed⟩
  | binary hpow hs =>
      have := Operator.strength_le_four hpow
      omega
  | tighter h =>
      have := h.level_le_seven
      omega

/-- A power or an atom does not start with an operator. -/
theorem head_ne_operator : ∀ {l : Nat} {ts : List Token} {a : Tree}, Derives d l ts a → 6 ≤ l →
    ∃ (t : Token) (us : List Token), ts = t :: us ∧ ∀ o : Operator, t.lexeme ≠ .operator o
  | _, _, _, .number h, _ => ⟨_, _, rfl, by simp [h]⟩
  | _, _, _, .column h, _ => ⟨_, _, rfl, by simp [h]⟩
  | _, _, _, .parens h _ _, _ => ⟨_, _, rfl, by simp [h]⟩
  | _, _, _, .call h _ _ _ _, _ => ⟨_, _, rfl, by simp [h]⟩
  | _, _, _, .power ha _ _, _ => by
      obtain ⟨t, us, rfl, ht⟩ := head_ne_operator ha (by decide)
      exact ⟨t, _, rfl, ht⟩
  | _, _, _, .binary hpow hs _ _ _ _, hl => by
      have := Operator.strength_le_four hpow
      omega
  | _, _, _, .tighter h, hl => head_ne_operator h (by omega)

end Derives

end Tabular.Formula
