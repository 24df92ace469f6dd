import Tabular.Cell

set_option autoImplicit false

/-! # Rows

A row assigns cells to column names. Its columns are pairwise distinct and stand in the order in
which they were first inserted; inserting under a column that is already there replaces the cell
and keeps the place.

Both languages read a row only through its **lookup**, the function from column names to cells.
Anything with a lookup can stand for a row, such as a dictionary built from pairs
(`Lookup.ofPairs`).
-/

namespace Tabular

/-- A **lookup** gives the cell of a column, if there is one. -/
abbrev Lookup := String → Option Cell

/-- The lookup of a dictionary built from pairs: the last pair of a column counts. -/
def Lookup.ofPairs (pairs : List (String × Cell)) : Lookup := fun column =>
  pairs.reverse.lookup column

/-! ## Entries -/

/-- Puts a cell under a column: the previous cell of that column, and the new entries. -/
def putEntry (column : String) (cell : Cell) :
    List (String × Cell) → Option Cell × List (String × Cell)
  | [] => (none, [(column, cell)])
  | (key, old) :: rest =>
    if key = column then (some old, (key, cell) :: rest)
    else
      let (previous, entries) := putEntry column cell rest
      (previous, (key, old) :: entries)

/-- Putting a cell keeps the columns, or adds the new one at the end. -/
theorem map_fst_putEntry (column : String) (cell : Cell) (entries : List (String × Cell)) :
    (putEntry column cell entries).2.map Prod.fst =
      if column ∈ entries.map Prod.fst then entries.map Prod.fst
      else entries.map Prod.fst ++ [column] := by
  induction entries with
  | nil => simp [putEntry]
  | cons entry rest ih =>
      obtain ⟨key, old⟩ := entry
      by_cases h : key = column
      · simp [putEntry, h]
      · by_cases hmem : column ∈ rest.map Prod.fst
        · simp only [hmem, if_true] at ih
          simp [putEntry, h, ih, Ne.symm h, hmem]
        · simp only [hmem, if_false] at ih
          simp [putEntry, h, ih, Ne.symm h, hmem]

/-- Looking a key up in entries compares it with the first column and goes on. -/
theorem lookup_cons_eq_ite {α : Type} (first : String) (value : α) (rest : List (String × α))
    (key : String) :
    List.lookup key ((first, value) :: rest) =
      if key = first then some value else rest.lookup key := by
  rw [List.lookup_cons]
  by_cases h : key = first
  · simp [h]
  · have hne : (key == first) = false := by simp [h]
    simp [hne, h]

/-- Among entries with distinct columns, each one is found under its column. -/
theorem mem_iff_lookup_eq_some {α : Type} {entries : List (String × α)} {column : String}
    {value : α} (hdistinct : (entries.map Prod.fst).Nodup) :
    (column, value) ∈ entries ↔ entries.lookup column = some value := by
  induction entries with
  | nil => simp
  | cons entry rest ih =>
      obtain ⟨key, first⟩ := entry
      rw [List.map_cons, List.nodup_cons] at hdistinct
      rw [List.mem_cons, lookup_cons_eq_ite, Prod.mk.injEq, ih hdistinct.2]
      by_cases h : column = key
      · subst h
        have hrest : rest.lookup column ≠ some value := fun hfound =>
          hdistinct.1 (List.mem_map.mpr ⟨_, (ih hdistinct.2).mpr hfound, rfl⟩)
        simp [hrest, eq_comm]
      · simp [h]

/-- Putting a cell gives back what was under its column. -/
theorem fst_putEntry (column : String) (cell : Cell) (entries : List (String × Cell)) :
    (putEntry column cell entries).1 = entries.lookup column := by
  induction entries with
  | nil => rfl
  | cons entry rest ih =>
      obtain ⟨key, old⟩ := entry
      rw [lookup_cons_eq_ite]
      by_cases h : key = column
      · simp [putEntry, h]
      · simp [putEntry, h, Ne.symm h, ih]

/-- Putting a cell changes what is under its column, and nothing else. -/
theorem lookup_putEntry (column : String) (cell : Cell) (entries : List (String × Cell))
    (key : String) :
    (putEntry column cell entries).2.lookup key =
      if key = column then some cell else entries.lookup key := by
  induction entries with
  | nil => rw [putEntry, lookup_cons_eq_ite]
  | cons entry rest ih =>
      obtain ⟨first, old⟩ := entry
      rw [lookup_cons_eq_ite]
      by_cases hfirst : first = column
      · subst hfirst
        rw [putEntry, if_pos rfl, lookup_cons_eq_ite]
        by_cases h : key = first <;> simp [h]
      · rw [putEntry, if_neg hfirst, lookup_cons_eq_ite, ih]
        by_cases h : key = first
        · subst h
          simp [hfirst]
        · simp [h]

/-- Of two cells put under one column the second counts. -/
theorem putEntry_putEntry (column : String) (first second : Cell)
    (entries : List (String × Cell)) :
    (putEntry column second (putEntry column first entries).2).2 =
      (putEntry column second entries).2 := by
  induction entries with
  | nil => simp [putEntry]
  | cons entry rest ih =>
      obtain ⟨key, old⟩ := entry
      by_cases h : key = column
      · simp [putEntry, h]
      · simp [putEntry, h, ih]

/-! ## Rows -/

/-- A **row**: columns in insertion order, each with its cell. -/
structure Row where
  entries : List (String × Cell)
  nodup : (entries.map Prod.fst).Nodup

namespace Row

/-- The row without columns. -/
def empty : Row := ⟨[], by simp⟩

instance : Inhabited Row := ⟨empty⟩

/-- Two rows are equal when they have the same columns in the same order with equal cells. -/
instance : BEq Row := ⟨fun r s => r.entries == s.entries⟩

/-- The column names, in order. -/
def columns (r : Row) : List String := r.entries.map Prod.fst

/-- The number of columns. -/
def size (r : Row) : Nat := r.entries.length

/-- The cell of a column. -/
def get? (r : Row) (column : String) : Option Cell := r.entries.lookup column

/-- The place of a column among the columns. -/
def position? (r : Row) (column : String) : Option Nat := r.columns.findIdx? (· == column)

/-- Sets the cell of a column and gives back its previous cell. -/
def insert (r : Row) (column : String) (cell : Cell) : Option Cell × Row :=
  ((putEntry column cell r.entries).1, ⟨(putEntry column cell r.entries).2, by
    rw [map_fst_putEntry]
    split
    · exact r.nodup
    · next h =>
        rw [List.nodup_append]
        refine ⟨r.nodup, by simp, ?_⟩
        intro a ha b hb hab
        rw [List.mem_singleton] at hb
        exact h (hb ▸ hab ▸ ha)⟩)

/-- The row after setting the cell of a column. -/
def set (r : Row) (column : String) (cell : Cell) : Row := (r.insert column cell).2

/-- The row built by setting the cells of a list of pairs in order. -/
def ofPairs (pairs : List (String × Cell)) : Row :=
  pairs.foldl (fun r pair => r.set pair.1 pair.2) empty

/-- Setting a cell keeps the columns, or adds the new one at the end. -/
theorem columns_set (r : Row) (column : String) (cell : Cell) :
    (r.set column cell).columns =
      if column ∈ r.columns then r.columns else r.columns ++ [column] :=
  map_fst_putEntry column cell r.entries

/-- Setting a cell gives back the cell that was there. -/
theorem fst_insert (r : Row) (column : String) (cell : Cell) :
    (r.insert column cell).1 = r.get? column :=
  fst_putEntry column cell r.entries

/-- The cells of a row after setting one of them. -/
theorem get?_set (r : Row) (column : String) (cell : Cell) (key : String) :
    (r.set column cell).get? key = if key = column then some cell else r.get? key :=
  lookup_putEntry column cell r.entries key

/-- The entries of a row are its columns with their cells. -/
theorem mem_entries {r : Row} {column : String} {cell : Cell} :
    (column, cell) ∈ r.entries ↔ r.get? column = some cell :=
  mem_iff_lookup_eq_some r.nodup

/-- Of two cells set in one column the second counts. -/
theorem set_set (r : Row) (column : String) (first second : Cell) :
    (r.set column first).set column second = r.set column second := by
  simp only [set, insert, putEntry_putEntry]

/-- The cells of a row after setting some of them in order: the last pair of a column counts. -/
theorem get?_foldl_set (pairs : List (String × Cell)) (r : Row) (key : String) :
    (pairs.foldl (fun r pair => r.set pair.1 pair.2) r).get? key =
      ((pairs.reverse.lookup key).or (r.get? key)) := by
  induction pairs generalizing r with
  | nil => simp
  | cons pair rest ih =>
      rw [List.foldl_cons, ih, get?_set, List.reverse_cons, List.lookup_append]
      have hpair : List.lookup key [pair] = if key = pair.1 then some pair.2 else none :=
        lookup_cons_eq_ite pair.1 pair.2 [] key
      rw [hpair, Option.or_assoc]
      by_cases h : key = pair.1 <;> simp [h]

/-- A row built from pairs is read like the dictionary built from them. -/
theorem get?_ofPairs (pairs : List (String × Cell)) :
    (ofPairs pairs).get? = Lookup.ofPairs pairs := by
  funext key
  have hempty : empty.get? key = none := rfl
  rw [ofPairs, get?_foldl_set, hempty, Option.or_none, Lookup.ofPairs]

end Row

end Tabular
