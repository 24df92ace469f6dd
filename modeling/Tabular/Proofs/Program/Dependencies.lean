import Tabular.Proofs.Alike.Reading
import Tabular.Proofs.Program.Composing
import Tabular.Proofs.Row.Columns

set_option autoImplicit false

/-! # What a step reads

A step that keeps some of the rows asks for the cells of some columns, and so does a step that writes
a column in every row (`Step.reads`). Other columns can be set at will: the test and the written cell
stay the same (`Step.test?_set`, `Step.writes?_set`). Hence a step that writes a column and one that
keeps rows without reading this column can be run in either order, and a step that writes a column
without reading it can be run twice. Both laws hold anywhere in a program (`Program.apply_reordered`).
-/

namespace Tabular

theorem Formula.mem_columns {f : Formula} {name : String} :
    name ∈ f.columns ↔ .column name ∈ f.steps := by
  rw [Formula.columns, Formula.columnsOf_eq, mem_addHeaders_nil, Formula.mem_uses]

/-- Setting a column leaves the cells of the others. -/
theorem Row.get?_set_of_not_mem (row : Row) {column : String} {names : List String} (cell : Cell)
    (h : column ∉ names) : ∀ name ∈ names, (row.set column cell).get? name = row.get? name := by
  intro name hname
  rw [get?_set, if_neg]
  rintro rfl
  exact h hname

namespace Step

/-! ## Tests and written cells -/

/-- The test by which a step keeps rows, if this is what it does. -/
def test? : Step → Option (Row → Bool)
  | keepMatching column matcher => some fun row => matcher.accepts (row.get? column)
  | keepWhere filter => some fun row => filter.accepts row.get?
  | _ => none

/-- The column that a step writes in every row, if it does, and the cell that it writes there. -/
def writes? : Step → Option (String × (Row → Cell))
  | average columns out => some (out, fun row => (rowMean row columns).elim .null .number)
  | compute column formula => some (column, computedCell formula)
  | _ => none

/-- The columns that a step **reads** in a row, in order to test it or to write a cell. -/
def reads : Step → List String
  | keepMatching column _ => [column]
  | keepWhere filter => filter.condition.columns
  | average columns _ => columns
  | compute _ formula => formula.columns
  | append _ => []

theorem run_of_test? {step : Step} {test : Row → Bool} (h : step.test? = some test) (t : Table) :
    step.run t = { t with rows := t.rows.filter test } := by
  cases step with
  | keepMatching _ _ | keepWhere _ =>
      cases h
      rfl
  | _ => cases h

theorem run_of_writes? {step : Step} {column : String} {cell : Row → Cell}
    (h : step.writes? = some (column, cell)) (t : Table) :
    step.run t = writeColumn t column cell := by
  cases step with
  | average _ _ | compute _ _ =>
      cases h
      rfl
  | _ => cases h

section

variable {step : Step} {column : String} (hcolumn : column ∉ step.reads)
include hcolumn

/-- A test does not notice that a column is set which it does not read. -/
theorem test?_set {test : Row → Bool} (h : step.test? = some test) (row : Row) (cell : Cell) :
    test (row.set column cell) = test row := by
  have hsame := row.get?_set_of_not_mem cell hcolumn
  cases step with
  | keepMatching name matcher =>
      cases h
      exact congrArg matcher.accepts (hsame name List.mem_cons_self)
  | keepWhere filter =>
      cases h
      show filter.accepts _ = filter.accepts _
      rw [Filter.accepts, Filter.accepts,
        filter.condition.value_congr fun name hname => by rw [hsame name hname]]
  | _ => cases h

/-- A written cell does not depend on a column that is not read. -/
theorem writes?_set {out : String} {written : Row → Cell} (h : step.writes? = some (out, written))
    (row : Row) (cell : Cell) : written (row.set column cell) = written row := by
  have hsame := row.get?_set_of_not_mem cell hcolumn
  cases step with
  | average columns _ =>
      cases h
      have hnumbers : ∀ name ∈ columns, ((row.set column cell).get? name).bind Cell.number? =
          (row.get? name).bind Cell.number? :=
        fun name hname => by rw [hsame name hname]
      simp only [rowMean, List.filterMap_congr hnumbers]
  | compute _ formula =>
      cases h
      have hvalue : formula.value (row.set column cell).get? = formula.value row.get? :=
        Formula.evaluate_congr fun name hname => by
          rw [hsame name (Formula.mem_columns.mpr hname)]
      rw [computedCell, computedCell, hvalue]
  | _ => cases h

end

/-! ## Two steps in a row -/

/-- A step that writes a column and a step that keeps rows, without reading this column, can be run
in either order. -/
theorem run_swap {write keep : Step} {column : String} {cell : Row → Cell} {test : Row → Bool}
    (hwrite : write.writes? = some (column, cell)) (hkeep : keep.test? = some test)
    (hcolumn : column ∉ keep.reads) (t : Table) :
    keep.run (write.run t) = write.run (keep.run t) := by
  rw [run_of_writes? hwrite, run_of_writes? hwrite, run_of_test? hkeep, run_of_test? hkeep]
  simp only [writeColumn, Table.ensureColumn, List.filter_map]
  congr 2
  exact List.filter_congr fun row _ => test?_set hcolumn hkeep row (cell row)

/-- A step that writes a column without reading it can be run twice. -/
theorem run_twice {write : Step} {column : String} {cell : Row → Cell}
    (hwrite : write.writes? = some (column, cell)) (hcolumn : column ∉ write.reads) (t : Table) :
    write.run (write.run t) = write.run t := by
  have hheaders : Table.addHeader (Table.addHeader t.headers column) column =
      Table.addHeader t.headers column :=
    if_pos (mem_addHeader.mpr (.inr rfl))
  have hrow : ∀ row : Row, (row.set column (cell row)).set column
      (cell (row.set column (cell row))) = row.set column (cell row) := by
    intro row
    rw [writes?_set hcolumn hwrite, Row.set_set]
  rw [run_of_writes? hwrite, run_of_writes? hwrite]
  simp only [writeColumn, Table.ensureColumn, hheaders, List.map_map, Function.comp_def, hrow]

end Step

/-! ## Transforms -/

namespace Transform

/-- A transform that **writes** a column in every row. -/
inductive Writes : Transform → String → Prop
  | average (columns : List String) (out : String) : Writes (.average columns out) out
  | compute (column formula : String) : Writes (.compute column formula) column

/-- A transform that **keeps** some of the rows as they are and drops the others. -/
inductive Keeps : Transform → Prop
  | keepMatching (column : String) (test : TextTest) (value : TextValue) (caseSensitive : Bool) :
      Keeps (.keepMatching column test value caseSensitive)
  | keepWhere (condition : String) : Keeps (.keepWhere condition)

/-- The columns that a transform **reads**: those of its step. A transform at fault has no step. -/
def reads (t : Transform) : List String := (Step.ofTransform t).toOption.elim [] Step.reads

theorem reads_of_step {t : Transform} {step : Step} (h : Step.ofTransform t = .ok step) :
    t.reads = step.reads := by
  rw [reads, h]
  rfl

theorem Writes.exists_writes? {t : Transform} {column : String} {step : Step}
    (h : t.Writes column) (hstep : Step.ofTransform t = .ok step) :
    ∃ cell, step.writes? = some (column, cell) := by
  cases compiles_of_step hstep with
  | average _ _ | compute _ _ =>
      cases h
      exact ⟨_, rfl⟩
  | _ => cases h

theorem Keeps.exists_test? {t : Transform} {step : Step} (h : t.Keeps)
    (hstep : Step.ofTransform t = .ok step) : ∃ test, step.test? = some test := by
  cases compiles_of_step hstep with
  | keepMatching _ _ _ _ | keepWhere _ => exact ⟨_, rfl⟩
  | _ => cases h

end Transform

/-! ## Programs -/

namespace Program

theorem effect_swap {write keep : Transform} {column : String} (hwrite : write.Writes column)
    (hkeep : keep.Keeps) (hcolumn : column ∉ keep.reads) (t : Table) :
    effect [write, keep] t = effect [keep, write] t := by
  simp only [effect_cons, effect_nil]
  cases hw : Step.ofTransform write with
  | error fault => cases Step.ofTransform keep <;> rfl
  | ok w =>
      cases hk : Step.ofTransform keep with
      | error fault => rfl
      | ok k =>
          obtain ⟨cell, hcell⟩ := hwrite.exists_writes? hw
          obtain ⟨test, htest⟩ := hkeep.exists_test? hk
          rw [Transform.reads_of_step hk] at hcolumn
          exact congrArg some (Step.run_swap hcell htest hcolumn t)

theorem effect_twice {write : Transform} {column : String} (hwrite : write.Writes column)
    (hcolumn : column ∉ write.reads) (t : Table) :
    effect [write, write] t = effect [write] t := by
  simp only [effect_cons, effect_nil]
  cases hw : Step.ofTransform write with
  | error fault => rfl
  | ok w =>
      obtain ⟨cell, hcell⟩ := hwrite.exists_writes? hw
      rw [Transform.reads_of_step hw] at hcolumn
      exact congrArg some (Step.run_twice hcell hcolumn t)

/-- **Transforms that do not depend on each other can be reordered.** A transform that writes a
column and a next one that keeps rows, and does not read this column, can be swapped anywhere in a
program: both programs have a fault, or they give the same headers and the same rows. And a transform
that writes a column without reading it does the same when it stands twice in a row as when it stands
there once. -/
theorem apply_reordered :
    (∀ (before after : Program) (write keep : Transform) (column : String) (base : Table),
      write.Writes column → keep.Keeps → column ∉ keep.reads →
        ((before ++ write :: keep :: after).apply base).toOption.map Table.contents =
          ((before ++ keep :: write :: after).apply base).toOption.map Table.contents) ∧
    ∀ (before after : Program) (write : Transform) (column : String) (base : Table),
      write.Writes column → column ∉ write.reads →
        ((before ++ write :: write :: after).apply base).toOption.map Table.contents =
          ((before ++ write :: after).apply base).toOption.map Table.contents :=
  ⟨fun before after _ _ _ base hwrite hkeep hcolumn =>
      contents_congr (effect_swap hwrite hkeep hcolumn) before after base,
    fun before after _ _ base hwrite hcolumn =>
      contents_congr (effect_twice hwrite hcolumn) before after base⟩

/-- A table with a number, a text that reads as none, and a row without the column. -/
def gappedSample : Table :=
  ⟨"base", ["a", "b"], [Row.ofPairs [("a", .number 3), ("b", .text "x")],
    Row.ofPairs [("b", .number 1)], Row.ofPairs [("a", .text "n/a")]]⟩

theorem apply_reordered_gappedSample :
    (Transform.compute "c" "2 * a + c").Writes "c" ∧ (Transform.keepWhere "a > 2").Keeps ∧
    "c" ∉ (Transform.keepWhere "a > 2").reads ∧
    "m" ∉ (Transform.average ["a", "b"] "m").reads ∧
    (apply [.average ["b"] "c", .compute "c" "2 * a + c", .keepWhere "a > 2"]
        gappedSample).toOption.map Table.contents =
      (apply [.average ["b"] "c", .keepWhere "a > 2", .compute "c" "2 * a + c"]
        gappedSample).toOption.map Table.contents ∧
    (apply [.average ["a", "b"] "m", .average ["a", "b"] "m", .keepWhere "m >= 1"]
        gappedSample).toOption.map Table.contents =
      (apply [.average ["a", "b"] "m", .keepWhere "m >= 1"]
        gappedSample).toOption.map Table.contents ∧
    (apply [.average ["a", "b"] "m", .keepWhere "m >= 1"] gappedSample).toOption.map
      (·.rows.length) = some 2 := by
  have hfilter : "c" ∉ (Transform.keepWhere "a > 2").reads := by decide +kernel
  have hmean : "m" ∉ (Transform.average ["a", "b"] "m").reads := by decide
  exact ⟨.compute _ _, .keepWhere _, hfilter, hmean,
    apply_reordered.1 [.average ["b"] "c"] [] _ _ _ _ (.compute _ _) (.keepWhere _) hfilter,
    apply_reordered.2 [] [.keepWhere "m >= 1"] _ _ _ (.average _ _) hmean, by decide +kernel⟩

end Program

end Tabular
