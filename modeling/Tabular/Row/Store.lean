import Tabular.Row

set_option autoImplicit false

/-! # The store of a row

A row is stored as its columns with their cells, in order, and an index that gives the place of each
column. Looking a cell up asks the index for the place and reads there. Setting the cell of a column
that the index knows replaces the cell at its place; any other column goes to the end, and its place
into the index.

The two parts are kept apart here, and nothing but the operations makes them agree. An index that
names a place behind the last cell would make setting a cell fail, hence the outer `Option`.
-/

namespace Tabular

/-- The **store** of a row: the columns with their cells, in order, and the places of the columns. -/
structure RowStore where
  cells : Array (String × Cell)
  index : List (String × Nat)
deriving Inhabited

namespace RowStore

/-- The store without columns, with room for some if their number is known. -/
def create (capacity : Option Nat) : RowStore :=
  ⟨Array.emptyWithCapacity (capacity.getD 0), []⟩

/-- The column names, in order. -/
def columns (s : RowStore) : List String := s.cells.toList.map Prod.fst

/-- The number of columns. -/
def size (s : RowStore) : Nat := s.cells.size

/-- The place that the index gives a column. -/
def place? (s : RowStore) (column : String) : Option Nat := s.index.lookup column

/-- The cell of a column: the one at its place. -/
def get? (s : RowStore) (column : String) : Option Cell := do
  let place ← s.place? column
  let entry ← s.cells[place]?
  pure entry.2

/-- Sets the cell of a column and gives back its previous cell. -/
def insert (s : RowStore) (column : String) (cell : Cell) : Option (Option Cell × RowStore) :=
  match s.place? column with
  | some place => do
    let entry ← s.cells[place]?
    pure (some entry.2, { s with cells := s.cells.setIfInBounds place (entry.1, cell) })
  | none => some (none, ⟨s.cells.push (column, cell), (column, s.cells.size) :: s.index⟩)

/-- The store after setting the cell of a column. -/
def set (s : RowStore) (column : String) (cell : Cell) : Option RowStore :=
  (s.insert column cell).map Prod.snd

/-- The store built by setting the cells of a list of pairs in order. -/
def collect (pairs : List (String × Cell)) : Option RowStore :=
  pairs.foldlM (fun s pair => s.set pair.1 pair.2) (create none)

/-- Two stores are equal when they have the same columns in the same order with equal cells. -/
instance : BEq RowStore := ⟨fun s t => s.cells == t.cells⟩

end RowStore

end Tabular
