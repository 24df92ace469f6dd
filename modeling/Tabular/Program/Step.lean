import Tabular.Filter
import Tabular.Formula.Infix
import Tabular.Program.Transform
import Tabular.Text.Lowercase

set_option autoImplicit false

/-! # Steps

A step is a transform with its texts compiled. Run on a table, it keeps some of the rows, or
writes one column in every row, or appends the rows of another table; it never fails.
-/

namespace Tabular

/-! ## Tests of texts -/

/-- Whether some characters occur together in others. -/
def hasInfix (needle : List Char) : List Char → Bool
  | [] => needle.isEmpty
  | c :: rest => needle.isPrefixOf (c :: rest) || hasInfix needle rest

/-- The parts of a text between its commas. -/
def splitAtCommas : List Char → List (List Char)
  | [] => [[]]
  | c :: rest =>
    if c = ',' then [] :: splitAtCommas rest
    else
      match splitAtCommas rest with
      | part :: parts => (c :: part) :: parts
      | [] => [[c]]

/-- A test of the text of a cell, with its values prepared. -/
structure TextMatcher where
  test : TextTest
  caseSensitive : Bool
  needle : String
  options : List String
deriving DecidableEq, Repr

namespace TextMatcher

/-- A text as it is compared: as it stands, or in lower case when case does not count. -/
def prepare (caseSensitive : Bool) (s : String) : String :=
  if caseSensitive then s else lowercase s

/-- Prepares the values of a test. A single value of a test for one of several is split at its
commas and the parts are trimmed; several values of another test are joined by commas. -/
def create (test : TextTest) (value : TextValue) (caseSensitive : Bool) : TextMatcher :=
  let prepare := prepare caseSensitive
  match test, value with
  | .oneOf, .one s =>
    ⟨test, caseSensitive, "",
      (splitAtCommas s.toList).map fun part => prepare (String.ofList (trim part))⟩
  | .oneOf, .many values => ⟨test, caseSensitive, "", values.map prepare⟩
  | _, .one s => ⟨test, caseSensitive, prepare s, []⟩
  | _, .many values => ⟨test, caseSensitive, prepare (String.intercalate "," values), []⟩

/-- Whether a cell passes a test. An absent cell has the empty text. -/
def accepts (m : TextMatcher) (cell : Option Cell) : Bool :=
  let text := prepare m.caseSensitive (cell.elim "" Cell.toText)
  match m.test with
  | .equal => text == m.needle
  | .unequal => text != m.needle
  | .contains => hasInfix m.needle.toList text.toList
  | .oneOf => m.options.contains text

end TextMatcher

/-! ## Written columns -/

/-- The mean of the numeric cells of a row among some columns, if there are any. -/
def rowMean (row : Row) (columns : List String) : Option Float :=
  match columns.filterMap fun column => (row.get? column).bind Cell.number? with
  | [] => none
  | values => some (values.foldl (· + ·) 0 / Float.ofNat values.length)

/-- The cell that holds the value of a formula: a number when the value is finite, and empty
otherwise. -/
def computedCell (formula : Formula) (row : Row) : Cell :=
  match formula.value row.get? with
  | .ok v => if v.isFinite then .number v else .null
  | .error _ => .null

/-! ## Steps -/

/-- A compiled **step**. -/
inductive Step where
  | keepMatching (column : String) (matcher : TextMatcher)
  | keepWhere (filter : Filter)
  | average (columns : List String) (out : String)
  | compute (column : String) (formula : Formula)
  | append (other : Table)

namespace Step

/-- Compiles a transform. -/
def ofTransform : Transform → Except Fault Step
  | .keepMatching column test value caseSensitive =>
    .ok (keepMatching column (TextMatcher.create test value caseSensitive))
  | .keepWhere condition => do pure (keepWhere (← Filter.compile condition))
  | .average columns out => .ok (average columns out)
  | .compute column formula => do pure (compute column (← Formula.compile formula .extended))
  | .append other => .ok (append other)

/-- Writes a cell to a column in every row of a table. -/
def writeColumn (t : Table) (column : String) (cell : Row → Cell) : Table :=
  let t := t.ensureColumn column
  { t with rows := t.rows.map fun row => row.set column (cell row) }

/-- Runs a step on a table. -/
def run (step : Step) (t : Table) : Table :=
  match step with
  | keepMatching column matcher =>
    { t with rows := t.rows.filter fun row => matcher.accepts (row.get? column) }
  | keepWhere filter => { t with rows := t.rows.filter fun row => filter.accepts row.get? }
  | average columns out =>
    writeColumn t out fun row => (rowMean row columns).elim .null .number
  | compute column formula => writeColumn t column (computedCell formula)
  | append other => t.append other

end Step

end Tabular
