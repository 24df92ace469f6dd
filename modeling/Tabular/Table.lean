import Tabular.Row

set_option autoImplicit false

/-! # Tables

A table has a name, headers in display order and rows. A table is created with at least one header
and with no header twice. Rows need not have a cell for every header, and may have others.
-/

namespace Tabular

/-- Why a table cannot be created. -/
inductive TableFault where
  | noHeaders
  | duplicateHeader (name : String)
deriving DecidableEq, Repr

/-- The message of a fault of a table. -/
def TableFault.message : TableFault → String
  | noHeaders => "table has no headers"
  | duplicateHeader name => s!"duplicate header '{name}'"

/-- A **table**. -/
structure Table where
  name : String
  headers : List String
  rows : List Row
deriving BEq, Inhabited

namespace Table

/-- The first of some names that repeats one before it, or one already seen. -/
def firstRepeat? (seen : List String) : List String → Option String
  | [] => none
  | name :: rest => if name ∈ seen then some name else firstRepeat? (name :: seen) rest

/-- Creates a table without rows. -/
def create (name : String) (headers : List String) : Except TableFault Table :=
  if headers = [] then .error .noHeaders
  else
    match firstRepeat? [] headers with
    | some header => .error (.duplicateHeader header)
    | none => .ok ⟨name, headers, []⟩

/-- The place of a header. -/
def columnIndex? (t : Table) (column : String) : Option Nat := t.headers.findIdx? (· == column)

/-- The headers with one more at the end, unless it is there already. -/
def addHeader (headers : List String) (column : String) : List String :=
  if column ∈ headers then headers else headers ++ [column]

/-- Makes sure that a column is among the headers. -/
def ensureColumn (t : Table) (column : String) : Table :=
  { t with headers := addHeader t.headers column }

/-- A table with one more row. -/
def pushRow (t : Table) (row : Row) : Table := { t with rows := t.rows ++ [row] }

/-- The numeric view of a cell, if the row and the cell exist. -/
def number? (t : Table) (row : Nat) (column : String) : Option Float := do
  let r ← t.rows[row]?
  let cell ← r.get? column
  cell.number?

/-- A row laid out by headers: each header in order, with an empty cell where the row has none. -/
def layOut (headers : List String) (row : Row) : Row :=
  Row.ofPairs (headers.map fun header => (header, (row.get? header).getD .null))

/-- A row that is laid out has the cells of the row under the headers, and no others. -/
theorem get?_layOut (headers : List String) (row : Row) (column : String) :
    (layOut headers row).get? column =
      if column ∈ headers then some ((row.get? column).getD .null) else none := by
  have hlookup : ∀ names : List String,
      (names.map fun header => (header, (row.get? header).getD Cell.null)).lookup column =
        if column ∈ names then some ((row.get? column).getD .null) else none := by
    intro names
    induction names with
    | nil => rfl
    | cons name names ih =>
        rw [List.map_cons, lookup_cons_eq_ite, ih]
        by_cases h : column = name
        · simp [h]
        · simp [h]
  rw [layOut, Row.get?_ofPairs, Lookup.ofPairs, ← List.map_reverse, hlookup]
  simp only [List.mem_reverse]

/-- A row laid out by the headers of a table. -/
def normalizeRow (t : Table) (row : Row) : Row := layOut t.headers row

/-- A table followed by another. The headers are those of the first and the new ones of the
second, and all rows are laid out by them. -/
def append (t other : Table) : Table :=
  let headers := other.headers.foldl addHeader t.headers
  ⟨t.name, headers, (t.rows ++ other.rows).map (layOut headers)⟩

end Table

end Tabular
