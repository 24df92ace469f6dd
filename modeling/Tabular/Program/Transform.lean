import Tabular.Table
import Tabular.Text.JsonString

set_option autoImplicit false

/-! # Transforms

A transform is one step of a program over a table, as it is written: conditions and formulas are
still texts. Every transform has a label, and a program is summed up by the labels of
its transforms.
-/

namespace Tabular

/-- How the text of a cell is tested. -/
inductive TextTest where
  /-- It equals the value. -/
  | equal
  /-- It differs from the value. -/
  | unequal
  /-- It contains the value. -/
  | contains
  /-- It is one of the values. -/
  | oneOf
deriving DecidableEq, Repr

/-- The short name of a test. -/
def TextTest.name : TextTest → String
  | equal => "eq"
  | unequal => "neq"
  | contains => "contains"
  | oneOf => "in"

/-- What the text of a cell is tested against. -/
inductive TextValue where
  | one (s : String)
  | many (values : List String)
deriving DecidableEq, Repr

/-- A **transform** of a table. -/
inductive Transform where
  /-- Keeps the rows whose cell in a column passes a test of its text. -/
  | keepMatching (column : String) (test : TextTest) (value : TextValue) (caseSensitive : Bool)
  /-- Keeps the rows that satisfy a condition. -/
  | keepWhere (condition : String)
  /-- Writes the mean of the numeric cells among some columns to a column. -/
  | average (columns : List String) (out : String)
  /-- Writes the value of a formula to a column. -/
  | compute (column formula : String)
  /-- Appends the rows of another table. -/
  | append (other : Table)
deriving BEq

namespace Transform

/-- Sets whether case counts, where a transform tests texts. -/
def withCase (caseSensitive : Bool) : Transform → Transform
  | keepMatching column test value _ => keepMatching column test value caseSensitive
  | t => t

/-- The **label** of a transform. -/
def label : Transform → String
  | keepMatching column test value _ =>
    let shown := match value with
      | .one s => JsonString.quote s
      | .many values => "[" ++ String.intercalate ", " values ++ "]"
    s!"Filter: {column} {test.name} {shown}"
  | keepWhere condition => s!"Where: {condition}"
  | average columns out => "RowAvg(" ++ String.intercalate "," columns ++ s!") -> {out}"
  | compute column formula => s!"{column} = {formula}"
  | append other => s!"Append({other.name})"

end Transform

/-- The labels of some transforms in one line. -/
def summarize (transforms : List Transform) : String :=
  String.intercalate " + " (transforms.map Transform.label)

end Tabular
