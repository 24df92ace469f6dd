import Mathlib.Data.Finset.Dedup
import Tabular.Proofs.Row.Columns
import Tabular.Row.Store

set_option autoImplicit false

/-! # The store of a row holds the row

A store holds a row when its cells are the entries of the row and its index lists each column with
its place (`RowStore.Holds`). Looking up then finds what the row has, and setting a cell succeeds and
gives a store of the row in which this cell is set. So every history of changes, from the empty store
on, leads to a store of the row that is built from the pairs given since the last collection
(`RowStore.run_holds`), and the store of such a row is an ordered map of these pairs
(`RowStore.run_isOrderedMap`).
-/

namespace Tabular

/-! ## Entries and places -/

theorem putEntry_cons_of_ne {column key : String} (h : key ≠ column) (cell first : Cell)
    (rest : List (String × Cell)) :
    (putEntry column cell ((key, first) :: rest)).2 =
      (key, first) :: (putEntry column cell rest).2 := by
  rw [putEntry, if_neg h]

/-- Putting a cell under a column that stands at a place replaces the entry there. -/
theorem putEntry_of_getElem? {column : String} {cell old : Cell} {entries : List (String × Cell)}
    {place : Nat} (hdistinct : (entries.map Prod.fst).Nodup)
    (h : entries[place]? = some (column, old)) :
    (putEntry column cell entries).2 = entries.set place (column, cell) := by
  induction entries generalizing place with
  | nil => cases h
  | cons entry rest ih =>
      obtain ⟨key, first⟩ := entry
      obtain ⟨hkey, hrest⟩ := List.nodup_cons.mp hdistinct
      cases place with
      | zero =>
          cases h
          rw [putEntry, if_pos rfl, List.set_cons_zero]
      | succ place =>
          rw [List.getElem?_cons_succ] at h
          have hne : key ≠ column := by
            rintro rfl
            exact hkey (List.mem_map.mpr ⟨_, List.mem_of_getElem? h, rfl⟩)
          rw [putEntry_cons_of_ne hne, List.set_cons_succ, ih hrest h]

/-- Putting a cell under a new column adds an entry at the end. -/
theorem putEntry_of_not_mem {column : String} {cell : Cell} {entries : List (String × Cell)}
    (h : column ∉ entries.map Prod.fst) :
    (putEntry column cell entries).2 = entries ++ [(column, cell)] := by
  induction entries with
  | nil => rfl
  | cons entry rest ih =>
      obtain ⟨key, first⟩ := entry
      rw [List.map_cons, List.mem_cons, not_or] at h
      rw [putEntry_cons_of_ne (Ne.symm h.1), ih h.2, List.cons_append]

namespace RowStore

/-! ## Stores of rows -/

/-- A store **holds** a row when its cells are the entries of the row, and its index has the columns
of the row with their places, and nothing else. -/
structure Holds (s : RowStore) (r : Row) : Prop where
  cells : s.cells.toList = r.entries
  index : s.index.Perm r.columns.zipIdx

theorem holds_create (capacity : Option Nat) : (create capacity).Holds .empty := ⟨rfl, .nil⟩

section

variable {s : RowStore} {r : Row} (h : s.Holds r)
include h

theorem Holds.columns_eq : s.columns = r.columns := congrArg (List.map Prod.fst) h.cells

/-- The index gives exactly the places of the columns. -/
theorem Holds.place?_eq_some {column : String} {place : Nat} :
    s.place? column = some place ↔ r.columns[place]? = some column := by
  have hkeys : (s.index.map Prod.fst).Nodup := by
    rw [(h.index.map Prod.fst).nodup_iff, List.zipIdx_map_fst]
    exact r.nodup
  rw [place?, ← mem_iff_lookup_eq_some hkeys, h.index.mem_iff, List.mem_zipIdx_iff_getElem?]

theorem Holds.place?_eq_none {column : String} (hplace : s.place? column = none) :
    column ∉ r.columns := by
  intro hmem
  obtain ⟨place, hcolumn⟩ := List.mem_iff_getElem?.mp hmem
  rw [h.place?_eq_some.mpr hcolumn] at hplace
  cases hplace

/-- At the place of a column there is its cell. -/
theorem Holds.exists_cell {column : String} {place : Nat} (hplace : s.place? column = some place) :
    ∃ cell, s.cells[place]? = some (column, cell) ∧ r.get? column = some cell := by
  have hcolumn := h.place?_eq_some.mp hplace
  rw [Row.columns, List.getElem?_map, Option.map_eq_some_iff] at hcolumn
  obtain ⟨⟨_, cell⟩, hentry, rfl⟩ := hcolumn
  refine ⟨cell, ?_, Row.mem_entries.mp (List.mem_of_getElem? hentry)⟩
  rw [← Array.getElem?_toList, h.cells, hentry]

/-- **Looking up** finds what the row has. -/
theorem Holds.get?_eq (column : String) : s.get? column = r.get? column := by
  rw [get?]
  cases hplace : s.place? column with
  | none => exact (Row.get?_of_not_mem_columns (h.place?_eq_none hplace)).symm
  | some place =>
      obtain ⟨cell, hentry, hcell⟩ := h.exists_cell hplace
      simp [hentry, hcell]

/-- **Setting a cell** succeeds, gives back what was found before, and leaves a store of the row in
which the cell is set. -/
theorem Holds.exists_insert (column : String) (cell : Cell) : ∃ next : RowStore,
    s.insert column cell = some (r.get? column, next) ∧ next.Holds (r.set column cell) := by
  rw [insert]
  cases hplace : s.place? column with
  | some place =>
      -- the cell is replaced at its place, so the columns and the index stay
      obtain ⟨old, hentry, hold⟩ := h.exists_cell hplace
      have hentries : r.entries[place]? = some (column, old) := by
        rw [← h.cells, Array.getElem?_toList, hentry]
      have hcolumn : column ∈ r.columns := List.mem_of_getElem? (h.place?_eq_some.mp hplace)
      refine ⟨{ s with cells := s.cells.setIfInBounds place (column, cell) }, ?_, ?_, ?_⟩
      · simp [hentry, hold]
      · rw [Array.toList_setIfInBounds, h.cells]
        exact (putEntry_of_getElem? r.nodup hentries).symm
      · rw [Row.columns_set, if_pos hcolumn]
        exact h.index
  | none =>
      -- the place behind the last cell is the number of columns so far
      have hcolumn := h.place?_eq_none hplace
      refine ⟨⟨s.cells.push (column, cell), (column, s.cells.size) :: s.index⟩, ?_, ?_, ?_⟩
      · rw [Row.get?_of_not_mem_columns hcolumn]
      · rw [Array.toList_push, h.cells]
        exact (putEntry_of_not_mem hcolumn).symm
      · have hsize : s.cells.size = r.columns.length := by
          rw [← Array.length_toList, h.cells, Row.columns, List.length_map]
        rw [Row.columns_set, if_neg hcolumn, List.zipIdx_append, hsize]
        simpa using (h.index.cons _).trans (List.perm_append_singleton _ _).symm

/-- **Setting cells** in order succeeds and leaves a store of the row in which they are set. -/
theorem Holds.exists_foldlM_set (pairs : List (String × Cell)) : ∃ next : RowStore,
    pairs.foldlM (fun s pair => s.set pair.1 pair.2) s = some next ∧
      next.Holds (pairs.foldl (fun r pair => r.set pair.1 pair.2) r) := by
  induction pairs generalizing s r with
  | nil => exact ⟨s, rfl, h⟩
  | cons pair pairs ih =>
      obtain ⟨between, hbetween, hholds⟩ := h.exists_insert pair.1 pair.2
      obtain ⟨next, hnext, hlast⟩ := ih hholds
      refine ⟨next, ?_, hlast⟩
      rw [List.foldlM_cons, set, hbetween]
      exact hnext

end

/-- **Collecting pairs** succeeds and gives a store of the row that is built from them. -/
theorem exists_collect (pairs : List (String × Cell)) :
    ∃ s : RowStore, collect pairs = some s ∧ s.Holds (Row.ofPairs pairs) :=
  (holds_create none).exists_foldlM_set pairs

/-! ## Histories -/

/-- A **change** of a store: its owner sets a cell and is told the previous one (`insert`), or sets a
cell and goes on with the store (`set`), or starts again with the store of some pairs (`collect`). -/
inductive Change where
  | insert (column : String) (cell : Cell)
  | set (column : String) (cell : Cell)
  | collect (pairs : List (String × Cell))

/-- The store after a change. -/
def Change.apply (s : RowStore) : Change → Option RowStore
  | insert column cell => do
    let (_, next) ← s.insert column cell
    pure next
  | set column cell => s.set column cell
  | collect pairs => RowStore.collect pairs

/-- The pairs that a store is made of, after a change. -/
def Change.record (pairs : List (String × Cell)) : Change → List (String × Cell)
  | insert column cell => pairs ++ [(column, cell)]
  | set column cell => pairs ++ [(column, cell)]
  | collect collected => collected

/-- The store after a history of changes. -/
def run (changes : List Change) (s : RowStore) : Option RowStore := changes.foldlM Change.apply s

/-- The pairs that are **given** by a history: those of the last collection, and the ones set after
it. -/
def given (changes : List Change) : List (String × Cell) := changes.foldl Change.record []

theorem ofPairs_append_singleton (pairs : List (String × Cell)) (column : String) (cell : Cell) :
    Row.ofPairs (pairs ++ [(column, cell)]) = (Row.ofPairs pairs).set column cell := by
  rw [Row.ofPairs, List.foldl_append, List.foldl_cons, List.foldl_nil, Row.ofPairs]

/-- A change of a store that holds a row succeeds and leaves a store that holds the next row. -/
theorem Holds.exists_apply {s : RowStore} {pairs : List (String × Cell)}
    (h : s.Holds (Row.ofPairs pairs)) (change : Change) : ∃ next : RowStore,
    change.apply s = some next ∧ next.Holds (Row.ofPairs (change.record pairs)) := by
  cases change with
  | insert column cell =>
      obtain ⟨next, hnext, hholds⟩ := h.exists_insert column cell
      rw [Change.record, ofPairs_append_singleton, Change.apply, hnext]
      exact ⟨next, rfl, hholds⟩
  | set column cell =>
      obtain ⟨next, hnext, hholds⟩ := h.exists_insert column cell
      rw [Change.record, ofPairs_append_singleton, Change.apply, set, hnext]
      exact ⟨next, rfl, hholds⟩
  | collect collected => exact exists_collect collected

/-- **Every history** of changes succeeds, and leaves a store of the row that is built from the pairs
it gave. -/
theorem run_holds (capacity : Option Nat) (changes : List Change) : ∃ s : RowStore,
    run changes (create capacity) = some s ∧ s.Holds (Row.ofPairs (given changes)) := by
  -- a history grows at its end, where its store is that of the shorter one
  induction changes using List.reverseRecOn with
  | nil => exact ⟨create capacity, rfl, holds_create capacity⟩
  | append_singleton changes last ih =>
      obtain ⟨s, hs, hholds⟩ := ih
      obtain ⟨next, hnext, hlast⟩ := hholds.exists_apply last
      refine ⟨next, ?_, ?_⟩
      · rw [run] at hs ⊢
        rw [List.foldlM_append, hs]
        simpa using hnext
      · rwa [given, List.foldl_append]

/-! ## Ordered maps -/

/-- A store is an **ordered map** of pairs: it has each of their columns once, in the order in which
they come first, with the cell that comes last, and its index gives each place and nothing else. -/
structure IsOrderedMap (s : RowStore) (pairs : List (String × Cell)) : Prop where
  nodup : s.columns.Nodup
  mem_columns : ∀ column, column ∈ s.columns ↔ column ∈ pairs.map Prod.fst
  firstUse : s.columns.Pairwise fun a b =>
    (pairs.map Prod.fst).idxOf a < (pairs.map Prod.fst).idxOf b
  index : s.index.Perm s.columns.zipIdx
  place : ∀ column place, s.place? column = some place ↔ s.columns[place]? = some column
  lastCell : Lookup.HoldsLast s.get? pairs
  size : s.size = (pairs.map Prod.fst).toFinset.card

/-- The lookup of a dictionary built from pairs holds their last cells. -/
theorem holdsLast_ofPairs (pairs : List (String × Cell)) :
    (Lookup.ofPairs pairs).HoldsLast pairs := by
  intro column
  rw [Lookup.ofPairs]
  cases hfound : pairs.reverse.lookup column with
  | none =>
      intro hmem
      obtain ⟨pair, hpair, rfl⟩ := List.mem_map.mp hmem
      have hne := List.lookup_eq_none_iff.mp hfound pair (List.mem_reverse.mpr hpair)
      simp at hne
  | some cell =>
      obtain ⟨after, before, hpairs, hafter⟩ := List.lookup_eq_some_iff.mp hfound
      refine ⟨before.reverse, after.reverse, ?_, ?_⟩
      · rw [← List.reverse_reverse pairs, hpairs, List.reverse_append, List.reverse_cons,
          List.append_assoc, List.singleton_append]
      · intro hmem
        obtain ⟨pair, hpair, rfl⟩ := List.mem_map.mp hmem
        have hne := hafter pair (List.mem_reverse.mp hpair)
        simp at hne

/-- The store of a row that is built from pairs is an ordered map of the pairs. -/
theorem Holds.isOrderedMap {s : RowStore} {pairs : List (String × Cell)}
    (h : s.Holds (Row.ofPairs pairs)) : s.IsOrderedMap pairs := by
  have hcolumns : s.columns = (pairs.map Prod.fst).foldl Table.addHeader [] := by
    rw [h.columns_eq, Row.ofPairs, Table.columns_foldl_set]
    rfl
  have hnodup : s.columns.Nodup := by
    rw [h.columns_eq]
    exact (Row.ofPairs pairs).nodup
  have hmem : ∀ column, column ∈ s.columns ↔ column ∈ pairs.map Prod.fst := by
    intro column
    rw [hcolumns, mem_addHeaders_nil]
  refine ⟨hnodup, hmem, ?_, ?_, fun column place => ?_, ?_, ?_⟩
  · rw [hcolumns]
    exact pairwise_addHeaders _
  · rw [h.columns_eq]
    exact h.index
  · rw [h.columns_eq, h.place?_eq_some]
  · have hget : s.get? = Lookup.ofPairs pairs := by
      rw [← Row.get?_ofPairs]
      exact funext h.get?_eq
    rw [hget]
    exact holdsLast_ofPairs pairs
  · have hset : s.columns.toFinset = (pairs.map Prod.fst).toFinset := by
      ext column
      rw [List.mem_toFinset, List.mem_toFinset, hmem]
    calc s.size
        = s.columns.length := by rw [columns, List.length_map, Array.length_toList, RowStore.size]
      _ = s.columns.toFinset.card := (List.toFinset_card_of_nodup hnodup).symm
      _ = (pairs.map Prod.fst).toFinset.card := congrArg Finset.card hset

/-- Setting the cell of a column moves no other column. -/
theorem Holds.place?_of_ne {s next : RowStore} {r : Row} {column other : String} {cell : Cell}
    (h : s.Holds r) (hnext : next.Holds (r.set column cell)) (hne : other ≠ column) :
    next.place? other = s.place? other := by
  refine Option.ext fun place => ?_
  rw [hnext.place?_eq_some, h.place?_eq_some, Row.columns_set]
  split
  · rfl
  · rw [List.getElem?_append]
    split
    · rfl
    · next hbehind =>
        rw [List.getElem?_eq_none (Nat.le_of_not_lt hbehind), List.getElem?_singleton]
        simp [Ne.symm hne]

/-- **The store of a row is an ordered map.** Every history of changes, from an empty store on, with
room for some columns or without, leads to a store that is an ordered map of the pairs it gave, the
store of the row that is built from them. Setting a cell then is one more change: it gives back the
cell that was found before, and it changes neither the cell nor the place of any other column. -/
theorem run_isOrderedMap (capacity : Option Nat) (changes : List Change) : ∃ s : RowStore,
    run changes (create capacity) = some s ∧ s.IsOrderedMap (given changes) ∧
    s.cells.toList = (Row.ofPairs (given changes)).entries ∧
    ∀ (column : String) (cell : Cell), ∃ next : RowStore,
      s.insert column cell = some (s.get? column, next) ∧
      run (changes ++ [.insert column cell]) (create capacity) = some next ∧
      ∀ other, other ≠ column →
        next.get? other = s.get? other ∧ next.place? other = s.place? other := by
  obtain ⟨s, hs, hholds⟩ := run_holds capacity changes
  refine ⟨s, hs, hholds.isOrderedMap, hholds.cells, fun column cell => ?_⟩
  obtain ⟨next, hnext, hlast⟩ := hholds.exists_insert column cell
  refine ⟨next, ?_, ?_, fun other hne => ⟨?_, hholds.place?_of_ne hlast hne⟩⟩
  · rw [hholds.get?_eq, hnext]
  · rw [run] at hs ⊢
    rw [List.foldlM_append, hs]
    simp [Change.apply, hnext]
  · rw [hlast.get?_eq, hholds.get?_eq, Row.get?_set, if_neg hne]

/-- A history that starts again with a price and a discount, adds a region and replaces the price. -/
def priceChanges : List Change :=
  [.insert "Qty" (.number 1), .collect [("Price", .number 1), ("Discount", .null)],
    .set "Region" (.text "west"), .insert "Price" (.number 2)]

/-- Their store. -/
def priceStore : RowStore :=
  ⟨#[("Price", .number 2), ("Discount", .null), ("Region", .text "west")],
    [("Region", 2), ("Discount", 1), ("Price", 0)]⟩

theorem run_isOrderedMap_priceChanges : ∃ next : RowStore,
    run priceChanges (create (some 4)) = some priceStore ∧
    priceStore.columns = ["Price", "Discount", "Region"] ∧
    priceStore.IsOrderedMap
      [("Price", .number 1), ("Discount", .null), ("Region", .text "west"), ("Price", .number 2)] ∧
    priceStore.insert "Price" (.number 3) = some (some (.number 2), next) ∧
    next.get? "Region" = some (.text "west") ∧ next.place? "Region" = some 2 := by
  obtain ⟨s, hs, hmap, -, hinsert⟩ := run_isOrderedMap (some 4) priceChanges
  have hrun : run priceChanges (create (some 4)) = some priceStore := rfl
  obtain rfl : s = priceStore := Option.some.inj (hs.symm.trans hrun)
  obtain ⟨next, hnext, -, hothers⟩ := hinsert "Price" (.number 3)
  obtain ⟨hcell, hplace⟩ := hothers "Region" (by decide)
  exact ⟨next, hrun, rfl, hmap, hnext, hcell, hplace⟩

end RowStore

end Tabular
