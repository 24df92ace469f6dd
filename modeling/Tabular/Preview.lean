import Tabular.Filter
import Tabular.Formula.Infix

set_option autoImplicit false

/-! # Previews

While a text is being typed it is checked again and again. A preview never fails: it tells what the
text would do, or why it is at fault.
-/

namespace Tabular.Preview

/-- How many rows a preview counts in at most, unless told otherwise. -/
def defaultCap : Nat := 5000

/-- The fault of the text of a condition, if it has one. -/
def conditionFault? (text : String) : Option Fault :=
  match Filter.compile text with
  | .ok _ => none
  | .error fault => some fault

/-- The value of a formula on a row, when it is finite, or the fault of its text. -/
def formulaValue (text : String) (look : Lookup) : Except Fault (Option Float) := do
  let formula ← Formula.compile text .extended
  let v ← formula.value look
  pure (if v.isFinite then some v else none)

/-- How many of the first `cap` rows satisfy a condition. -/
def countMatches (rows : List Lookup) (text : String) (cap : Nat) : Except Fault Nat := do
  let filter ← Filter.compile text
  pure ((rows.take cap).countP filter.accepts)

end Tabular.Preview
