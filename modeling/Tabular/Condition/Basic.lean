import Tabular.Scalar

set_option autoImplicit false

/-! # Conditions

A condition is a tree of comparisons, ranges, pattern matches and logical operators over literals
and columns. Every node has a value, a scalar, and a condition holds when its value is true; the
nodes that ask something give one or zero.
-/

namespace Tabular

/-- The **relations** between two scalars. -/
inductive Relation where
  | eq | ne | gt | ge | lt | le
deriving DecidableEq, Repr

namespace Relation

/-- The symbol of a relation. -/
def symbol : Relation → String
  | eq => "=="
  | ne => "!="
  | gt => ">"
  | ge => ">="
  | lt => "<"
  | le => "<="

/-- Whether a relation holds between two numbers. -/
def holdsNumber (r : Relation) (a b : Float) : Bool :=
  match r with
  | eq => a == b
  | ne => a != b
  | gt => b < a
  | ge => b ≤ a
  | lt => a < b
  | le => a ≤ b

/-- Whether a relation holds between two texts, which are ordered by their code points. -/
def holdsText (r : Relation) (a b : String) : Bool :=
  match r with
  | eq => a == b
  | ne => a != b
  | gt => b < a
  | ge => !(a < b)
  | lt => a < b
  | le => !(b < a)

/-- Whether a relation holds between two scalars: between two finite numbers as numbers, and
between any others as texts. -/
def holds (r : Relation) (a b : Scalar) : Bool :=
  match a.finite?, b.finite? with
  | some a, some b => r.holdsNumber a b
  | _, _ => r.holdsText a.toText b.toText

end Relation

/-- Whether a scalar lies between two others, both included: as numbers if all three are finite
numbers, and as texts otherwise. -/
def isBetween (target low high : Scalar) : Bool :=
  match target.finite?, low.finite?, high.finite? with
  | some t, some low, some high => low ≤ t && t ≤ high
  | _, _, _ =>
    Relation.ge.holdsText target.toText low.toText
      && Relation.le.holdsText target.toText high.toText

/-- A **condition** on a row. -/
inductive Condition where
  /-- One of two conditions holds. -/
  | or (p q : Condition)
  /-- Both conditions hold. -/
  | and (p q : Condition)
  /-- A condition does not hold. -/
  | not (p : Condition)
  /-- A relation between two values. -/
  | compare (r : Relation) (a b : Condition)
  /-- A value lies, or does not lie, between two others. -/
  | between (negated : Bool) (target low high : Condition)
  /-- A value matches, or does not match, a wildcard text. -/
  | like (ignoreCase negated : Bool) (value wildcard : Condition)
  /-- A pattern occurs in a value. -/
  | matching (ignoreCase : Bool) (value pattern : Condition)
  /-- The cell of a column. -/
  | column (name : String)
  /-- A number. -/
  | number (v : Float)
  /-- A text. -/
  | text (s : String)
deriving BEq, Repr, Inhabited

/-! ## Operands -/

namespace Condition

/-- The operands of a condition, from left to right. -/
def operands : Condition → List Condition
  | or p q | and p q | compare _ p q | like _ _ p q | matching _ p q => [p, q]
  | not p => [p]
  | between _ target low high => [target, low, high]
  | column _ | number _ | text _ => []

/-- What holds of a condition whenever it holds of its operands holds of all conditions. -/
theorem operands_induction {P : Condition → Prop} (step : ∀ c, (∀ p ∈ c.operands, P p) → P c)
    (c : Condition) : P c := by
  induction c with
  | or p q ihp ihq | and p q ihp ihq | compare _ p q ihp ihq | like _ _ p q ihp ihq
  | matching _ p q ihp ihq => exact step _ (by simp [operands, ihp, ihq])
  | not p ih => exact step _ (by simp [operands, ih])
  | between _ target low high iht ihlow ihhigh =>
      exact step _ (by simp [operands, iht, ihlow, ihhigh])
  | column name | number v | text s => exact step _ (by simp [operands])

end Condition

/-! ## Patterns in conditions -/

/-- How a text is used as a pattern. -/
inductive PatternUse where
  /-- A wildcard text for the whole value. -/
  | like
  /-- A pattern that has to occur in the value. -/
  | matching
deriving DecidableEq, Repr

/-- A pattern text together with its use. -/
structure PatternKey where
  use : PatternUse
  ignoreCase : Bool
  text : String
deriving DecidableEq, Repr

namespace Condition

/-- The text of a literal. -/
def literalText? : Condition → Option String
  | text s => some s
  | number v => some (showNumber v)
  | _ => none

/-- The value of a condition on a row, given how pattern texts are matched against values. -/
def value (matched : PatternKey → String → Bool) (look : Lookup) : Condition → Scalar
  | or p q => .ofBool ((p.value matched look).isTrue || (q.value matched look).isTrue)
  | and p q => .ofBool ((p.value matched look).isTrue && (q.value matched look).isTrue)
  | not p => .ofBool !(p.value matched look).isTrue
  | compare r a b => .ofBool (r.holds (a.value matched look) (b.value matched look))
  | between negated target low high =>
    .ofBool (isBetween (target.value matched look) (low.value matched look)
      (high.value matched look) != negated)
  | like ignoreCase negated value wildcard =>
    let key := ⟨.like, ignoreCase, (wildcard.value matched look).toText⟩
    .ofBool (matched key (value.value matched look).toText != negated)
  | matching ignoreCase value pattern =>
    let key := ⟨.matching, ignoreCase, (pattern.value matched look).toText⟩
    .ofBool (matched key (value.value matched look).toText)
  | column name => .ofCell (look name)
  | number v => .number v
  | text s => .text s

/-- The patterns of a condition whose texts are literals, from left to right. -/
def literalPatterns : Condition → List PatternKey
  | or p q | and p q | compare _ p q => p.literalPatterns ++ q.literalPatterns
  | not p => p.literalPatterns
  | between _ target low high =>
    target.literalPatterns ++ low.literalPatterns ++ high.literalPatterns
  | like ignoreCase _ value wildcard =>
    value.literalPatterns ++
      match wildcard.literalText? with
      | some t => [⟨.like, ignoreCase, t⟩]
      | none => wildcard.literalPatterns
  | matching ignoreCase value pattern =>
    value.literalPatterns ++
      match pattern.literalText? with
      | some t => [⟨.matching, ignoreCase, t⟩]
      | none => pattern.literalPatterns
  | column _ | number _ | text _ => []

end Condition

end Tabular
