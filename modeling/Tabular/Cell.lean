import Tabular.Decimal.Shortest
import Tabular.Text.Blank

set_option autoImplicit false

/-! # Cells

A cell of a table is empty, a number, a truth value, a text or a date. Every cell has a text
(`Cell.text`), and some have a numeric view (`Cell.number?`): numbers, truth values and dates
always, a text when it writes a finite number, and the empty cell never.

Dates count milliseconds. The numeric view of a date is the double nearest to that count, which
is also what its text reads as.
-/

namespace Tabular

/-- A **cell** holds one value of a table. -/
inductive Cell where
  /-- No value. -/
  | null
  /-- A number, possibly infinite or not-a-number. -/
  | number (v : Float)
  /-- A truth value. -/
  | boolean (b : Bool)
  /-- A text. -/
  | text (s : String)
  /-- A date, in milliseconds since the epoch. -/
  | date (milliseconds : Int)
deriving BEq, Repr, Inhabited

/-- The decimal text of an integer. -/
def showInteger (i : Int) : String :=
  String.ofList ((if i < 0 then ['-'] else []) ++ Nat.toDigits 10 i.natAbs)

/-- The double nearest to an integer. -/
def integerValue (i : Int) : Float :=
  let magnitude := scaled i.natAbs 0 (digitCount i.natAbs)
  if i < 0 then -magnitude else magnitude

/-- The number that a text writes, blanks at its ends apart. Only finite numbers count. -/
def parseNumber (s : String) : Option Float :=
  (readDecimal? (trim s.toList)).filter Float.isFinite

namespace Cell

/-- The **numeric view** of a cell. -/
def number? : Cell → Option Float
  | null => none
  | number v => some v
  | boolean b => some (if b then 1 else 0)
  | text s => parseNumber s
  | date ms => some (integerValue ms)

/-- The text of a cell; the empty cell has the empty text. -/
def toText : Cell → String
  | null => ""
  | number v => showNumber v
  | boolean b => if b then "true" else "false"
  | text s => s
  | date ms => showInteger ms

/-- Whether a cell is empty. -/
def isNull : Cell → Bool
  | null => true
  | _ => false

end Cell

end Tabular
