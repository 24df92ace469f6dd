import Tabular.Proofs.Decimal.Quotient
import Tabular.Proofs.Program.Composing
import Tabular.Proofs.Program.Headers

set_option autoImplicit false

/-! # Where numbers stay finite

A computed cell is empty when the value is not finite. A mean has no such guard: it is a finite number
when the sum of the numeric cells is (`isFinite_of_rowMean`), but the sum of finite numbers can be
infinite, and then the mean is too. So an infinite number or not-a-number in the output of a program,
over tables without any, stands in a column in which a mean was written whose sum overflowed
(`Program.finite_unless_overflow`); and this happens (`Program.not_finite_meanOfLarge`).
-/

namespace Tabular

/-! ## Finite cells -/

/-- A cell is **finite** unless it is an infinite number or not-a-number. -/
def Cell.IsFinite : Cell → Prop
  | number v => v.isFinite = true
  | _ => True

instance (cell : Cell) : Decidable cell.IsFinite :=
  match cell with
  | .number v => inferInstanceAs (Decidable (v.isFinite = true))
  | .null | .boolean _ | .text _ | .date _ => isTrue trivial

namespace Row

/-- A row is **finite** when its cells are. -/
def IsFinite (row : Row) : Prop := ∀ entry ∈ row.entries, entry.2.IsFinite

instance (row : Row) : Decidable row.IsFinite :=
  inferInstanceAs (Decidable (∀ entry ∈ row.entries, entry.2.IsFinite))

/-- A row is finite outside of some columns. -/
def IsFiniteBut (excepted : String → Prop) (row : Row) : Prop :=
  ∀ column cell, row.get? column = some cell → cell.IsFinite ∨ excepted column

variable {row : Row} {excepted : String → Prop}

theorem IsFinite.isFiniteBut (h : row.IsFinite) : row.IsFiniteBut excepted :=
  fun _ _ hcell => .inl (h _ (mem_entries.mpr hcell))

theorem IsFiniteBut.mono {other : String → Prop} (h : row.IsFiniteBut excepted)
    (hmono : ∀ column, excepted column → other column) : row.IsFiniteBut other :=
  fun column cell hcell => (h column cell hcell).imp_right (hmono column)

theorem IsFiniteBut.set (h : row.IsFiniteBut excepted) {column : String} {cell : Cell}
    (hcell : cell.IsFinite ∨ excepted column) : (row.set column cell).IsFiniteBut excepted := by
  intro name found hfound
  rw [get?_set] at hfound
  split at hfound
  · next heq =>
      cases hfound
      rwa [heq]
  · exact h name found hfound

theorem IsFiniteBut.layOut (h : row.IsFiniteBut excepted) (headers : List String) :
    (Table.layOut headers row).IsFiniteBut excepted := by
  intro name found hfound
  rw [Table.get?_layOut] at hfound
  split at hfound
  · cases hcell : row.get? name with
    | none =>
        rw [hcell] at hfound
        cases hfound
        exact .inl trivial
    | some cell =>
        rw [hcell] at hfound
        cases hfound
        exact h name cell hcell
  · cases hfound

end Row

/-! ## Written cells -/

/-- The sum of the numeric cells of a row among some columns. -/
def rowSum (row : Row) (columns : List String) : Float :=
  (columns.filterMap fun column => (row.get? column).bind Cell.number?).foldl (· + ·) 0

/-- A mean is finite when the sum is. -/
theorem isFinite_of_rowMean {row : Row} {columns : List String} {v : Float}
    (h : rowMean row columns = some v) (hsum : (rowSum row columns).isFinite = true) :
    v.isFinite = true := by
  unfold rowMean at h
  unfold rowSum at hsum
  generalize columns.filterMap _ = values at h hsum
  cases values with
  | nil => cases h
  | cons first rest =>
      cases h
      exact isFinite_div_ofNat hsum (Nat.succ_pos _)

theorem isFinite_computedCell (formula : Formula) (row : Row) :
    (computedCell formula row).IsFinite := by
  unfold computedCell
  split
  · split
    · next hfinite => exact hfinite
    · trivial
  · trivial

/-- The value of a compiled formula is written when it is finite. -/
theorem computedCell_of_compile {text : String} {formula : Formula}
    (h : Formula.compile text .extended = .ok formula) (row : Row) :
    ∃ v : Float, formula.value row.get? = .ok v ∧
      computedCell formula row = if v.isFinite then .number v else .null := by
  obtain ⟨v, hv⟩ := Formula.exists_value_of_compile h row.get?
  refine ⟨v, hv, ?_⟩
  rw [computedCell, hv]

/-! ## Steps -/

namespace Step

/-- A step **overflows** in a column when it writes means there and the sum for some row is not
finite. -/
def Overflows (t : Table) (column : String) : Step → Prop
  | average columns out => out = column ∧ ∃ row ∈ t.rows, (rowSum row columns).isFinite = false
  | _ => False

variable {excepted : String → Prop}

/-- What a step makes of a row is finite where the row is and where the step does not overflow. -/
theorem isFiniteBut_onRow {step : Step} {t : Table} {row next : Row}
    (hrow : row.IsFiniteBut excepted) (hmem : row ∈ t.rows ++ step.brought)
    (h : step.onRow t.headers row = some next) :
    next.IsFiniteBut fun column => excepted column ∨ step.Overflows t column := by
  have hkept : row.IsFiniteBut fun column => excepted column ∨ step.Overflows t column :=
    hrow.mono fun _ => .inl
  cases step with
  | keepMatching column matcher =>
      obtain ⟨-, hnext⟩ := Option.ite_none_right_eq_some.mp h
      cases hnext
      exact hkept
  | keepWhere filter =>
      obtain ⟨-, hnext⟩ := Option.ite_none_right_eq_some.mp h
      cases hnext
      exact hkept
  | average columns out =>
      cases h
      refine hkept.set ?_
      cases hmean : rowMean row columns with
      | none => exact .inl trivial
      | some v =>
          cases hsum : (rowSum row columns).isFinite with
          | true => exact .inl (isFinite_of_rowMean hmean hsum)
          | false => exact .inr (.inr ⟨rfl, row, by simpa [brought] using hmem, hsum⟩)
  | compute column formula =>
      cases h
      exact hkept.set (.inl (isFinite_computedCell formula row))
  | append other =>
      cases h
      exact hkept.layOut _

/-- **A step keeps rows finite** where it does not overflow. -/
theorem isFiniteBut_run {step : Step} {t : Table} (ht : ∀ row ∈ t.rows, row.IsFiniteBut excepted)
    (hbrought : ∀ row ∈ step.brought, row.IsFiniteBut excepted) :
    ∀ next ∈ (step.run t).rows,
      next.IsFiniteBut fun column => excepted column ∨ step.Overflows t column := by
  intro next hnext
  rw [run_eq] at hnext
  obtain ⟨row, hmem, hrow⟩ := List.mem_filterMap.mp hnext
  exact isFiniteBut_onRow ((List.mem_append.mp hmem).elim (ht row) (hbrought row)) hmem hrow

end Step

/-! ## Programs -/

namespace Program

/-- A program **overflows** in a column when it writes means there and, after the transforms before
this, the sum for some row is not finite. -/
def Overflows (p : Program) (base : Table) (column : String) : Prop :=
  ∃ (before after : Program) (columns : List String) (reached : Table),
    p = before ++ .average columns column :: after ∧ effect before base = some reached ∧
      ∃ row ∈ reached.rows, (rowSum row columns).isFinite = false

/-- Overflow in the first transform or in the others is overflow of the program. -/
theorem overflows_cons {first : Transform} {step : Step} {p : Program} {t : Table} {column : String}
    (hstep : Step.ofTransform first = .ok step)
    (h : step.Overflows t column ∨ Overflows p (step.run t) column) :
    Overflows (first :: p) t column := by
  rcases h with hfirst | ⟨before, after, columns, reached, rfl, hreached, hsum⟩
  · cases step with
    | average columns out =>
        obtain ⟨rfl, hsum⟩ := hfirst
        cases Transform.compiles_of_step hstep
        exact ⟨[], p, columns, t, rfl, rfl, hsum⟩
    | _ => cases hfirst
  · refine ⟨first :: before, after, columns, reached, rfl, ?_, hsum⟩
    rw [effect_cons, hstep]
    exact hreached

/-- **A run keeps rows finite** where it does not overflow. -/
theorem isFiniteBut_effect {excepted : String → Prop} {p : Program} {t out : Table}
    (hout : effect p t = some out) (ht : ∀ row ∈ t.rows, row.IsFiniteBut excepted)
    (happended : ∀ other : Table, .append other ∈ p → ∀ row ∈ other.rows, row.IsFinite) :
    ∀ row ∈ out.rows, row.IsFiniteBut fun column => excepted column ∨ p.Overflows t column := by
  induction p generalizing t excepted with
  | nil =>
      cases hout
      exact fun row hrow => (ht row hrow).mono fun _ => .inl
  | cons first p ih =>
      rw [effect_cons] at hout
      cases hstep : Step.ofTransform first with
      | error fault =>
          rw [hstep] at hout
          cases hout
      | ok step =>
          rw [hstep] at hout
          have hbrought : ∀ row ∈ step.brought, row.IsFiniteBut excepted := by
            intro row hrow
            cases Transform.compiles_of_step hstep with
            | append other => exact (happended other List.mem_cons_self row hrow).isFiniteBut
            | _ => cases hrow
          have hnext := ih hout (Step.isFiniteBut_run ht hbrought)
            fun other hother => happended other (List.mem_cons_of_mem _ hother)
          refine fun row hrow => (hnext row hrow).mono fun column hcolumn => ?_
          rcases hcolumn with (hexcepted | hfirst) | hrest
          · exact .inl hexcepted
          · exact .inr (overflows_cons hstep (.inl hfirst))
          · exact .inr (overflows_cons hstep (.inr hrest))

/-- A program that runs has an effect, with the same rows. -/
theorem exists_effect_of_apply {p : Program} {base out : Table} (h : p.apply base = .ok out) :
    ∃ t : Table, effect p base = some t ∧ t.rows = out.rows := by
  have hcontents := contents_apply_eq_effect p base
  rw [h] at hcontents
  obtain ⟨t, heffect, ht⟩ := Option.map_eq_some_iff.mp hcontents.symm
  exact ⟨t, heffect, congrArg Prod.snd ht⟩

/-- The formulas of a program that runs compile. -/
theorem exists_formula_of_apply {p : Program} {base out : Table} (h : p.apply base = .ok out)
    {column text : String} (hmem : .compute column text ∈ p) :
    ∃ f : Formula, Formula.compile text .extended = .ok f := by
  obtain ⟨compiled, -, hsteps⟩ := apply_eq_ok h
  obtain ⟨step, -, hstep⟩ := exists_step_of_mem hsteps hmem
  cases Transform.compiles_of_step hstep with
  | compute _ hf => exact ⟨_, hf⟩

/-- **Numbers stay finite unless the sum of a mean overflows.** Take a program that runs, where all
numbers of the base and of the appended tables are finite. Then a number of the output is finite, or
its column is one in which a mean was written whose sum, for some row, was not finite. A formula that
is computed has a value on every row, which is written when it is finite, and an empty cell otherwise.
-/
theorem finite_unless_overflow {p : Program} {base out : Table} (hout : p.apply base = .ok out)
    (hbase : ∀ row ∈ base.rows, row.IsFinite)
    (happended : ∀ other : Table, .append other ∈ p → ∀ row ∈ other.rows, row.IsFinite) :
    (∀ row ∈ out.rows, ∀ entry ∈ row.entries, entry.2.IsFinite ∨ p.Overflows base entry.1) ∧
    ∀ column text : String, .compute column text ∈ p → ∃ f : Formula,
      Formula.compile text .extended = .ok f ∧
        ∀ row : Row, ∃ v : Float, f.value row.get? = .ok v ∧
          computedCell f row = if v.isFinite then .number v else .null := by
  obtain ⟨t, heffect, hrows⟩ := exists_effect_of_apply hout
  have hrowsFinite : ∀ row ∈ base.rows, row.IsFiniteBut fun _ => False :=
    fun row hrow => (hbase row hrow).isFiniteBut
  have hbut := isFiniteBut_effect heffect hrowsFinite happended
  rw [hrows] at hbut
  refine ⟨fun row hrow entry hentry => ?_, fun column text hmem => ?_⟩
  · exact (hbut row hrow entry.1 entry.2 (Row.mem_entries.mp hentry)).imp_right
      fun h => h.resolve_left id
  · obtain ⟨f, hf⟩ := exists_formula_of_apply hout hmem
    exact ⟨f, hf, computedCell_of_compile hf⟩

/-- A table with a number whose double is too large for a double. -/
def largeSample : Table :=
  ⟨"large", ["X", "Y"], [Row.ofPairs [("X", .number 1e308), ("Y", .number 1e308)],
    Row.ofPairs [("X", .text "9e307"), ("Y", .text "inf")]]⟩

/-- A program that multiplies, appends and takes two means. -/
def largeProgram : Program :=
  [.compute "P" "X * 10", .append ⟨"other", ["Y"], [Row.ofPairs [("Y", .number (-1e308))]]⟩,
    .average ["P", "X"] "M", .average ["X", "Y"] "N"]

theorem finite_unless_overflow_largeSample : ∃ out : Table,
    largeProgram.apply largeSample = .ok out ∧ out.rows.length = 3 ∧
    (∀ row ∈ largeSample.rows, row.IsFinite) ∧
    (∀ other : Table, .append other ∈ largeProgram → ∀ row ∈ other.rows, row.IsFinite) ∧
    ∀ row ∈ out.rows, ∀ entry ∈ row.entries,
      entry.2.IsFinite ∨ largeProgram.Overflows largeSample entry.1 := by
  have hbase : ∀ row ∈ largeSample.rows, row.IsFinite := by decide +kernel
  have happended : ∀ other : Table, .append other ∈ largeProgram →
      ∀ row ∈ other.rows, row.IsFinite := by
    intro other hother
    simp only [largeProgram, List.mem_cons, Transform.append.injEq, List.not_mem_nil, or_false,
      reduceCtorEq, false_or] at hother
    subst hother
    decide +kernel
  have hlength : (largeProgram.apply largeSample).toOption.map (·.rows.length) = some 3 := by
    decide +kernel
  cases hout : largeProgram.apply largeSample with
  | error fault =>
      rw [hout] at hlength
      cases hlength
  | ok out =>
      rw [hout] at hlength
      exact ⟨out, rfl, Option.some.inj hlength, hbase, happended,
        (finite_unless_overflow hout hbase happended).1⟩

/-- **The mean of two finite numbers can be infinite**, as their sum is. -/
theorem not_finite_meanOfLarge :
    (∀ row ∈ largeSample.rows, row.IsFinite) ∧
    ∃ out : Table, apply [.average ["X", "Y"] "M"] largeSample = .ok out ∧
      ∃ row ∈ out.rows, ∃ entry ∈ row.entries, entry.1 = "M" ∧ ¬ entry.2.IsFinite :=
  ⟨by decide +kernel, _, rfl, by decide +kernel⟩

end Program

end Tabular
