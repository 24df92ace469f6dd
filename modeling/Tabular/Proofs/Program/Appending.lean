import Mathlib.Data.List.Forall2
import Tabular.Proofs.Program.Composing
import Tabular.Proofs.Program.Headers
import Tabular.Proofs.Row.Columns

set_option autoImplicit false

/-! # Appending is associative

The headers of a table and of one that is appended to it are put together in their order, each once
(`Table.addHeaders_eq`), and this is associative whatever the headers are. A row may be laid out
first by some of the headers and then by all of them: when it has no columns but the first ones, the
second layout undoes nothing of the first (`Table.layOut_layOut`). So three tables whose rows have no
columns besides the headers of their own table make the same table in either grouping
(`append_associative`), and each of its rows has all cells of the row that it comes from.
-/

namespace Tabular

namespace Table

/-! ## Headers put together -/

/-- Adding a header to the second of two lists is adding it to both together. -/
theorem addHeaders_addHeader (headers columns : List String) (column : String) :
    (addHeader columns column).foldl addHeader headers =
      addHeader (columns.foldl addHeader headers) column := by
  by_cases hmem : column ∈ columns
  · rw [addHeader, if_pos hmem, addHeader, if_pos (mem_addHeaders.mpr (.inr hmem))]
  · rw [addHeader, if_neg hmem, List.foldl_append, List.foldl_cons, List.foldl_nil]

/-- Putting headers together is associative. -/
theorem addHeaders_addHeaders (xs ys zs : List String) :
    (zs.foldl addHeader ys).foldl addHeader xs = zs.foldl addHeader (ys.foldl addHeader xs) := by
  induction zs generalizing ys with
  | nil => rfl
  | cons z zs ih => rw [List.foldl_cons, List.foldl_cons, ih, addHeaders_addHeader]

/-- Distinct names add those of them that are new. -/
theorem addHeaders_eq {headers columns : List String} (h : columns.Nodup) :
    columns.foldl addHeader headers = headers ++ columns.filter (· ∉ headers) := by
  induction columns generalizing headers with
  | nil => rw [List.foldl_nil, List.filter_nil, List.append_nil]
  | cons column columns ih =>
      obtain ⟨hnew, hcolumns⟩ := List.nodup_cons.mp h
      rw [List.foldl_cons, ih hcolumns, addHeader]
      by_cases hmem : column ∈ headers
      · rw [if_pos hmem, List.filter_cons_of_neg (by simpa using hmem)]
      · have hrest : columns.filter (· ∉ headers ++ [column]) = columns.filter (· ∉ headers) := by
          refine List.filter_congr fun name hname => ?_
          have hne : name ≠ column := fun heq => hnew (heq ▸ hname)
          simp [hne]
        rw [if_neg hmem, List.filter_cons_of_pos (by simpa using hmem), hrest, List.append_assoc,
          List.singleton_append]

end Table

/-! ## Rows laid out -/

/-- A row **fills** headers from another when it has exactly these columns, with the cells of the
other, and with empty ones where the other has none. -/
structure FilledFrom (headers : List String) (source row : Row) : Prop where
  columns : row.columns = headers
  kept : ∀ (column : String) (cell : Cell), source.get? column = some cell →
    row.get? column = some cell
  filled : ∀ column ∈ headers, source.get? column = none → row.get? column = some .null

namespace Table

/-- A row that is laid out keeps all its cells, when it has no columns besides the headers. -/
theorem filledFrom_layOut {headers : List String} {row : Row} (hheaders : headers.Nodup)
    (hrow : row.columns ⊆ headers) : FilledFrom headers row (layOut headers row) where
  columns := columns_layOut hheaders row
  kept column cell hcell := by
    have hcolumn : column ∈ headers := by
      refine hrow (Decidable.byContradiction fun hnot => ?_)
      rw [Row.get?_of_not_mem_columns hnot] at hcell
      cases hcell
    rw [get?_layOut, if_pos hcolumn, hcell, Option.getD_some]
  filled column hcolumn hnone := by
    rw [get?_layOut, if_pos hcolumn, hnone, Option.getD_none]

theorem forall₂_filledFrom {headers : List String} {rows : List Row} (hheaders : headers.Nodup)
    (h : ∀ row ∈ rows, row.columns ⊆ headers) :
    List.Forall₂ (FilledFrom headers) rows (rows.map (layOut headers)) := by
  rw [List.forall₂_map_right_iff, List.forall₂_same]
  exact fun row hrow => filledFrom_layOut hheaders (h row hrow)

/-- A row that has no columns but some of the headers can be laid out by these first. -/
theorem layOut_layOut {headers inner : List String} {row : Row} (hrow : row.columns ⊆ inner) :
    layOut headers (layOut inner row) = layOut headers row := by
  -- a cell that the first layout fills in is one that the second would fill in as well
  have hcell (column : String) :
      ((layOut inner row).get? column).getD .null = (row.get? column).getD .null := by
    rw [get?_layOut]
    by_cases hmem : column ∈ inner
    · rw [if_pos hmem, Option.getD_some]
    · rw [if_neg hmem, Row.get?_of_not_mem_columns fun h => hmem (hrow h)]
  rw [layOut]
  simp only [hcell]
  rfl

theorem map_layOut_layOut {headers inner : List String} {rows : List Row}
    (h : ∀ row ∈ rows, row.columns ⊆ inner) :
    (rows.map (layOut inner)).map (layOut headers) = rows.map (layOut headers) := by
  rw [List.map_map]
  exact List.map_congr_left fun row hrow => layOut_layOut (h row hrow)

/-! ## Tables appended -/

/-- A table is **closed** when its headers are distinct and its rows have no columns besides. -/
structure IsClosed (t : Table) : Prop where
  nodup : t.headers.Nodup
  columns : ∀ row ∈ t.rows, row.columns ⊆ t.headers

variable {a b c : Table}

theorem subset_headers_append (a b : Table) :
    a.headers ⊆ (a.append b).headers ∧ b.headers ⊆ (a.append b).headers :=
  ⟨fun _ h => mem_addHeaders.mpr (.inl h), fun _ h => mem_addHeaders.mpr (.inr h)⟩

theorem headers_append (hb : b.headers.Nodup) :
    (a.append b).headers = a.headers ++ b.headers.filter (· ∉ a.headers) :=
  addHeaders_eq hb

/-- The rows of closed tables stay within the headers of the table that is made of them. -/
theorem columns_subset_append (ha : a.IsClosed) (hb : b.IsClosed) :
    ∀ row ∈ a.rows ++ b.rows, row.columns ⊆ (a.append b).headers := by
  obtain ⟨hleft, hright⟩ := subset_headers_append a b
  intro row hrow
  rcases List.mem_append.mp hrow with hrow | hrow
  · exact List.Subset.trans (ha.columns row hrow) hleft
  · exact List.Subset.trans (hb.columns row hrow) hright

theorem nodup_headers_append (ha : a.headers.Nodup) (b : Table) : (a.append b).headers.Nodup :=
  nodup_addHeaders ha b.headers

/-- The name of an appended table does not matter. -/
theorem append_congr {other : Table} (h : b.contents = other.contents) (a : Table) :
    a.append b = a.append other := by
  obtain ⟨hheaders, hrows⟩ := Prod.mk.inj h
  rw [append, append, hheaders, hrows]

/-- All rows of three closed tables are laid out by the headers of all. -/
theorem rows_append_append (ha : a.IsClosed) (hb : b.IsClosed) (c : Table) :
    ((a.append b).append c).rows =
      (a.rows ++ b.rows ++ c.rows).map (layOut ((a.append b).append c).headers) := by
  calc ((a.append b).append c).rows
      = ((a.rows ++ b.rows).map (layOut (a.append b).headers) ++ c.rows).map
          (layOut ((a.append b).append c).headers) := rfl
    _ = (a.rows ++ b.rows ++ c.rows).map (layOut ((a.append b).append c).headers) := by
        rw [List.map_append, map_layOut_layOut (columns_subset_append ha hb), ← List.map_append]

/-- The headers of three tables: those of the first, and of each other one those that are new. -/
theorem headers_append_append (hb : b.headers.Nodup) (hc : c.headers.Nodup) :
    ((a.append b).append c).headers = a.headers ++ b.headers.filter (· ∉ a.headers) ++
      c.headers.filter (· ∉ a.headers ++ b.headers) := by
  have hnew : c.headers.filter (· ∉ (a.append b).headers) =
      c.headers.filter (· ∉ a.headers ++ b.headers) := by
    refine List.filter_congr fun column _ => ?_
    rw [decide_eq_decide, List.mem_append]
    exact not_congr mem_addHeaders
  rw [headers_append hc, hnew, headers_append hb]

/-- The rows of three closed tables are filled with all their cells. -/
theorem filledFrom_append_append (ha : a.IsClosed) (hb : b.IsClosed) (hc : c.IsClosed) :
    List.Forall₂ (FilledFrom ((a.append b).append c).headers) (a.rows ++ b.rows ++ c.rows)
      ((a.append b).append c).rows := by
  rw [rows_append_append ha hb]
  refine forall₂_filledFrom (nodup_headers_append (nodup_headers_append ha.nodup b) c) ?_
  obtain ⟨hleft, hright⟩ := subset_headers_append (a.append b) c
  intro row hrow
  rcases List.mem_append.mp hrow with hrow | hrow
  · exact List.Subset.trans (columns_subset_append ha hb row hrow) hleft
  · exact List.Subset.trans (hc.columns row hrow) hright

/-- **Appending is associative** for closed tables. -/
theorem append_assoc (ha : a.IsClosed) (hb : b.IsClosed) (hc : c.IsClosed) :
    (a.append b).append c = a.append (b.append c) := by
  have hheaders : (a.append (b.append c)).headers = ((a.append b).append c).headers :=
    addHeaders_addHeaders a.headers b.headers c.headers
  have hrows : (a.append (b.append c)).rows = ((a.append b).append c).rows :=
    calc (a.append (b.append c)).rows
        = (a.rows ++ (b.rows ++ c.rows).map (layOut (b.append c).headers)).map
            (layOut (a.append (b.append c)).headers) := rfl
      _ = (a.rows ++ (b.rows ++ c.rows)).map (layOut ((a.append b).append c).headers) := by
          rw [hheaders, List.map_append, map_layOut_layOut (columns_subset_append hb hc),
            ← List.map_append]
      _ = ((a.append b).append c).rows := by
          rw [← List.append_assoc, rows_append_append ha hb]
  show Table.mk a.name _ _ = Table.mk a.name _ _
  exact (congrArg₂ (Table.mk a.name) hheaders hrows).symm

end Table

/-! ## Programs that append -/

namespace Program

/-- A program of appends appends its tables in turn. -/
theorem effect_append_tables (tables : List Table) (t : Table) :
    effect (tables.map .append) t = some (tables.foldl Table.append t) := by
  induction tables generalizing t with
  | nil => rfl
  | cons other tables ih =>
      rw [List.map_cons, effect_cons, List.foldl_cons, ← ih]
      rfl

/-- A program of appends runs, and makes what appending its tables in turn makes, but for the name.
-/
theorem exists_apply_append (tables : List Table) (t : Table) : ∃ out : Table,
    apply (tables.map .append) t = .ok out ∧ out.contents = (tables.foldl Table.append t).contents := by
  have hcontents := contents_apply_eq_effect (tables.map .append) t
  rw [effect_append_tables, Option.map_some] at hcontents
  cases happly : apply (tables.map .append) t with
  | error fault =>
      rw [happly] at hcontents
      cases hcontents
  | ok out =>
      rw [happly] at hcontents
      exact ⟨out, rfl, Option.some.inj hcontents⟩

end Program

open Table

/-- **Appending is associative, and no cell is lost.** Take three tables with distinct headers whose
rows have no columns besides. Appending the second and then the third to the first makes the same
headers and rows as appending to the first what appending the third to the second makes. The headers
are those of the first, the new ones of the second and the new ones of the third. The rows are those
of the first, the second and the third, in this order: each has exactly these headers as its columns,
all the cells that it had, and empty ones in the other columns. -/
theorem append_associative {a b c : Table} (ha : a.IsClosed) (hb : b.IsClosed) (hc : c.IsClosed) :
    ∃ both left right : Table,
      Program.apply [.append c] b = .ok both ∧
      Program.apply [.append b, .append c] a = .ok left ∧
      Program.apply [.append both] a = .ok right ∧
      left.headers = right.headers ∧ left.rows = right.rows ∧
      left.headers = a.headers ++ b.headers.filter (· ∉ a.headers) ++
        c.headers.filter (· ∉ a.headers ++ b.headers) ∧
      List.Forall₂ (FilledFrom left.headers) (a.rows ++ b.rows ++ c.rows) left.rows := by
  obtain ⟨both, hboth, hbothContents⟩ := Program.exists_apply_append [c] b
  obtain ⟨left, hleft, hleftContents⟩ := Program.exists_apply_append [b, c] a
  obtain ⟨right, hright, hrightContents⟩ := Program.exists_apply_append [both] a
  -- of the table that is appended, only the headers and the rows are read
  have hassoc : a.append both = (a.append b).append c :=
    calc a.append both
        = a.append (b.append c) := append_congr hbothContents a
      _ = (a.append b).append c := (append_assoc ha hb hc).symm
  obtain ⟨hheaders, hrows⟩ : left.headers = ((a.append b).append c).headers ∧
      left.rows = ((a.append b).append c).rows := Prod.mk.inj hleftContents
  obtain ⟨hheaders', hrows'⟩ := Prod.mk.inj (hrightContents.trans (congrArg contents hassoc))
  refine ⟨both, left, right, hboth, hleft, hright, hheaders.trans hheaders'.symm,
    hrows.trans hrows'.symm, ?_, ?_⟩
  · rw [hheaders, headers_append_append hb.nodup hc.nodup]
  · rw [hheaders, hrows]
    exact filledFrom_append_append ha hb hc

/-- Three tables that share some headers, in different orders, and some rows of which have gaps. -/
def overlapSample : Table × Table × Table :=
  (⟨"a", ["x", "y"], [Row.ofPairs [("y", .number 1)], .empty]⟩,
    ⟨"b", ["z", "x"], [Row.ofPairs [("x", .null), ("z", .text "s")]]⟩,
    ⟨"c", ["w", "z", "y"], [Row.ofPairs [("y", .boolean true), ("w", .date 5)]]⟩)

theorem append_associative_overlapSample :
    overlapSample.1.IsClosed ∧ overlapSample.2.1.IsClosed ∧ overlapSample.2.2.IsClosed ∧
    ∃ both left right : Table,
      Program.apply [.append overlapSample.2.2] overlapSample.2.1 = .ok both ∧
      Program.apply [.append overlapSample.2.1, .append overlapSample.2.2] overlapSample.1 =
        .ok left ∧
      Program.apply [.append both] overlapSample.1 = .ok right ∧
      left.headers = ["x", "y", "z", "w"] ∧ right.headers = ["x", "y", "z", "w"] ∧
      left.rows = right.rows := by
  have ha : overlapSample.1.IsClosed := ⟨by decide, by decide⟩
  have hb : overlapSample.2.1.IsClosed := ⟨by decide, by decide⟩
  have hc : overlapSample.2.2.IsClosed := ⟨by decide, by decide⟩
  obtain ⟨both, left, right, hboth, hleft, hright, hheaders, hrows, hunion, -⟩ :=
    append_associative ha hb hc
  have hall : left.headers = ["x", "y", "z", "w"] := hunion.trans (by decide)
  exact ⟨ha, hb, hc, both, left, right, hboth, hleft, hright, hall, hheaders.symm.trans hall,
    hrows⟩

end Tabular
