import Tabular.Program.Basic

set_option autoImplicit false

/-! # Programs act row by row

No step of a program looks at two rows together. What it makes of a row depends on the row and on
the headers at that point alone (`Step.onRow`), and the headers after it do not depend on the rows
(`Step.onHeaders`). Only an append brings rows of its own, behind all others.

So a whole program has a **fate** for each row: dropped, or turned into one row. The rows of the
output are the fates of the base rows, in order, and behind them those of the appended rows, which
are the same whatever the base rows are (`CompiledProgram.apply_rowwise`).
-/

namespace Tabular

namespace Step

/-! ## Single steps -/

/-- The headers of a table after a step. -/
def onHeaders (headers : List String) : Step → List String
  | keepMatching _ _ | keepWhere _ => headers
  | average _ out => Table.addHeader headers out
  | compute column _ => Table.addHeader headers column
  | append other => other.headers.foldl Table.addHeader headers

/-- What a step makes of a row of a table with some headers, or `none` if it drops the row. -/
def onRow (headers : List String) (row : Row) : Step → Option Row
  | keepMatching column matcher => if matcher.accepts (row.get? column) then some row else none
  | keepWhere filter => if filter.accepts row.get? then some row else none
  | average columns out => some (row.set out ((rowMean row columns).elim .null .number))
  | compute column formula => some (row.set column (computedCell formula row))
  | append other => some (Table.layOut (onHeaders headers (append other)) row)

/-- The rows that a step brings into a table. -/
def brought : Step → List Row
  | append other => other.rows
  | _ => []

/-- Keeping the rows that pass a test is a matter of each row alone. -/
theorem filterMap_keep (test : Row → Bool) (rows : List Row) :
    rows.filterMap (fun row => if test row then some row else none) = rows.filter test := by
  have hguard := List.filterMap_eq_filter (p := test)
  simp only [Option.guard_def] at hguard
  rw [hguard]

/-- **A step acts row by row**, on the rows that are there and then on those that it brings. -/
theorem run_eq (step : Step) (t : Table) :
    step.run t = ⟨t.name, step.onHeaders t.headers,
      (t.rows ++ step.brought).filterMap fun row => step.onRow t.headers row⟩ := by
  cases step with
  | keepMatching column matcher =>
      simp only [run, onHeaders, brought, List.append_nil, onRow]
      rw [filterMap_keep fun row => matcher.accepts (row.get? column)]
  | keepWhere filter =>
      simp only [run, onHeaders, brought, List.append_nil, onRow]
      rw [filterMap_keep fun row => filter.accepts row.get?]
  | average columns out =>
      simp only [run, writeColumn, Table.ensureColumn, onHeaders, brought, List.append_nil, onRow]
      rw [← List.filterMap_eq_map]
      rfl
  | compute column formula =>
      simp only [run, writeColumn, Table.ensureColumn, onHeaders, brought, List.append_nil, onRow]
      rw [← List.filterMap_eq_map]
      rfl
  | append other =>
      simp only [run, Table.append, brought, onRow]
      rw [← List.filterMap_eq_map]
      rfl

/-! ## Runs of steps -/

/-- Runs some steps on a table, one after the other. -/
def runAll (steps : List Step) (t : Table) : Table := steps.foldl (fun t step => step.run t) t

/-- The headers of a table after some steps. -/
def headersAfter (steps : List Step) (headers : List String) : List String :=
  steps.foldl (fun headers step => step.onHeaders headers) headers

/-- The **fate** of a row of a table with some headers: what some steps make of it, one after the
other, or `none` if one of them drops it. -/
def fate : List Step → List String → Row → Option Row
  | [], _, row => some row
  | step :: steps, headers, row =>
    (step.onRow headers row).bind (fate steps (step.onHeaders headers))

/-- What some steps leave of the rows that they bring. A row that an append brings undergoes this
append and all later steps. -/
def tail : List Step → List String → List Row
  | [], _ => []
  | step :: steps, headers =>
    step.brought.filterMap (fate (step :: steps) headers) ++ tail steps (step.onHeaders headers)

/-- **A run of steps acts row by row.** -/
theorem runAll_eq (steps : List Step) (t : Table) :
    runAll steps t = ⟨t.name, headersAfter steps t.headers,
      t.rows.filterMap (fate steps t.headers) ++ tail steps t.headers⟩ := by
  induction steps generalizing t with
  | nil =>
      have hkept : t.rows.filterMap (fate [] t.headers) = t.rows := List.filterMap_some
      rw [hkept, tail, List.append_nil]
      rfl
  | cons step steps ih =>
      have hfate : fate (step :: steps) t.headers = fun row =>
          (step.onRow t.headers row).bind (fate steps (step.onHeaders t.headers)) := rfl
      calc runAll (step :: steps) t
          = runAll steps (step.run t) := rfl
        _ = ⟨t.name, headersAfter (step :: steps) t.headers,
              ((t.rows ++ step.brought).filterMap fun row => step.onRow t.headers row).filterMap
                (fate steps (step.onHeaders t.headers)) ++ tail steps (step.onHeaders t.headers)⟩ := by
            rw [ih, run_eq]
            rfl
        _ = ⟨t.name, headersAfter (step :: steps) t.headers,
              t.rows.filterMap (fate (step :: steps) t.headers) ++
                tail (step :: steps) t.headers⟩ := by
            rw [List.filterMap_filterMap, List.filterMap_append, tail, hfate, List.append_assoc]

/-- The rows of the tail are what is left of the rows of the appended tables. -/
theorem mem_tail {steps : List Step} {headers : List String} {row : Row} :
    row ∈ tail steps headers ↔
      ∃ before other after, steps = before ++ append other :: after ∧
        ∃ r ∈ other.rows,
          fate (append other :: after) (headersAfter before headers) r = some row := by
  induction steps generalizing headers with
  | nil => simp [tail]
  | cons step steps ih =>
      rw [tail, List.mem_append, List.mem_filterMap, ih]
      constructor
      · rintro (⟨r, hr, hfate⟩ | ⟨before, other, after, rfl, r, hr, hfate⟩)
        · cases step with
          | append other => exact ⟨[], other, steps, rfl, r, hr, hfate⟩
          | _ => cases hr
        · exact ⟨step :: before, other, after, rfl, r, hr, hfate⟩
      · rintro ⟨before, other, after, hsteps, r, hr, hfate⟩
        cases before with
        | nil =>
            obtain ⟨rfl, rfl⟩ := List.cons.inj hsteps
            exact .inl ⟨r, hr, hfate⟩
        | cons first before =>
            obtain ⟨rfl, rfl⟩ := List.cons.inj hsteps
            exact .inr ⟨before, other, after, rfl, r, hr, hfate⟩

end Step

/-! ## Compiled programs -/

namespace CompiledProgram

/-- Apart from the name of the result, a compiled program runs its steps. -/
theorem headers_apply (p : CompiledProgram) (base : Table) :
    (p.apply base).headers = (Step.runAll p.steps base).headers := by
  unfold apply
  dsimp only
  split <;> rfl

theorem rows_apply (p : CompiledProgram) (base : Table) :
    (p.apply base).rows = (Step.runAll p.steps base).rows := by
  unfold apply
  dsimp only
  split <;> rfl

/-- A compiled program names its result after the table and itself, unless it is empty. -/
theorem name_apply (p : CompiledProgram) (base : Table) :
    (p.apply base).name =
      if p.summary = "" then base.name else s!"{base.name} | {p.summary}" := by
  have hname : (Step.runAll p.steps base).name = base.name := by rw [Step.runAll_eq]
  unfold apply
  dsimp only
  split
  · exact hname
  · rfl

/-- **A program acts row by row.** The headers of the output do not depend on the base rows. Its
rows are the fates of the base rows in their order, and then rows that do not depend on the base
rows either: what the program leaves of the rows of the appended tables. So the output for two
lists of base rows, one behind the other, is put together from what becomes of each. -/
theorem apply_rowwise (p : CompiledProgram) (headers : List String) :
    (∀ (name : String) (rows : List Row),
      (p.apply ⟨name, headers, rows⟩).headers = Step.headersAfter p.steps headers ∧
        (p.apply ⟨name, headers, rows⟩).rows =
          rows.filterMap (Step.fate p.steps headers) ++ Step.tail p.steps headers) ∧
    (∀ (name : String) (xs ys : List Row),
      (p.apply ⟨name, headers, xs ++ ys⟩).rows =
        xs.filterMap (Step.fate p.steps headers) ++
          (ys.filterMap (Step.fate p.steps headers) ++ Step.tail p.steps headers)) ∧
    ∀ row : Row, row ∈ Step.tail p.steps headers ↔
      ∃ before other after, p.steps = before ++ Step.append other :: after ∧
        ∃ r ∈ other.rows,
          Step.fate (Step.append other :: after) (Step.headersAfter before headers) r =
            some row := by
  have hrows : ∀ (name : String) (rows : List Row),
      (p.apply ⟨name, headers, rows⟩).rows =
        rows.filterMap (Step.fate p.steps headers) ++ Step.tail p.steps headers := by
    intro name rows
    rw [rows_apply, Step.runAll_eq]
  refine ⟨fun name rows => ⟨?_, hrows name rows⟩, fun name xs ys => ?_, fun row => Step.mem_tail⟩
  · rw [headers_apply, Step.runAll_eq]
  · rw [hrows, List.filterMap_append, List.append_assoc]

end CompiledProgram

end Tabular
