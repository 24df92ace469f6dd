import Tabular.Row

set_option autoImplicit false

/-! # Scalars

A predicate works on **scalars**: a number or a text. Every literal, cell and intermediate result
is one of the two. A formula works on numbers alone, and reads a cell without a numeric view as
not-a-number.
-/

namespace Tabular

/-- Not-a-number. -/
def notANumber : Float := 0.0 / 0.0

/-- A number counts as true when it is neither zero nor not-a-number. -/
def isTrueNumber (v : Float) : Bool := v != 0 && !v.isNaN

/-- The number one for true and zero for false. -/
def flag (b : Bool) : Float := if b then 1 else 0

/-- A **scalar** is a number or a text. -/
inductive Scalar where
  | number (v : Float)
  | text (s : String)
deriving BEq, Repr, Inhabited

namespace Scalar

/-- The scalar of a truth value. -/
def ofBool (b : Bool) : Scalar := number (flag b)

/-- The scalar of a cell that may be absent. A number stays a number, finite or not; an absent or
empty cell is the empty text; any other cell is a number when its numeric view is finite, and its
text otherwise. -/
def ofCell : Option Cell → Scalar
  | none => text ""
  | some .null => text ""
  | some (.number v) => number v
  | some cell =>
    match cell.number? with
    | some v => if v.isFinite then number v else text cell.toText
    | none => text cell.toText

/-- A number is true when it is neither zero nor not-a-number, and a text when it is not empty. -/
def isTrue : Scalar → Bool
  | number v => isTrueNumber v
  | text s => s != ""

/-- The number of a scalar, when it is one and finite. -/
def finite? : Scalar → Option Float
  | number v => if v.isFinite then some v else none
  | text _ => none

/-- The text that a scalar is compared and matched by. -/
def toText : Scalar → String
  | number v => showNumber v
  | text s => s

end Scalar

/-- The scalar of a truth value is as true as the value. -/
theorem isTrue_ofBool (b : Bool) : (Scalar.ofBool b).isTrue = b := by
  cases b <;> decide +kernel

/-- What a formula reads in a cell that may be absent. -/
def numericValue (cell : Option Cell) : Float :=
  (cell.bind Cell.number?).getD notANumber

end Tabular
