import Mathlib.Data.List.Forall2
import Mathlib.Data.List.Nodup
import Tabular.Proofs.Program.RowByRow

set_option autoImplicit false

/-! # Headers stay distinct, and rows follow them

A table is created from distinct headers only, and otherwise the first header that repeats one
before it is reported (`Table.create_eq_duplicateHeader_iff`). Steps only add new headers at the
end, so the headers of an output are distinct again and start with those of the base.

A table is **laid out** when each row has exactly the headers as its columns, in the same order.
Every step keeps a table laid out, because it treats the headers and the columns of each row alike;
and an append lays out any table, whatever was before (`laidOut_runAll`).
-/

namespace Tabular

namespace Table

/-! ## Creating tables -/

/-- No name repeats one before it or one of `seen` when the names are distinct and none of them is
seen. -/
theorem firstRepeat?_eq_none_iff {seen names : List String} :
    firstRepeat? seen names = none ↔ names.Nodup ∧ ∀ name ∈ names, name ∉ seen := by
  induction names generalizing seen with
  | nil => simp [firstRepeat?]
  | cons name names ih =>
      rw [firstRepeat?, List.nodup_cons]
      by_cases hseen : name ∈ seen
      · simp [hseen]
      · rw [if_neg hseen, ih]
        constructor
        · rintro ⟨hnodup, hfresh⟩
          have hname : name ∉ names := fun hmem => hfresh name hmem List.mem_cons_self
          refine ⟨⟨hname, hnodup⟩, fun other hother => ?_⟩
          rcases List.mem_cons.mp hother with rfl | hother
          · exact hseen
          · exact fun hmem => hfresh other hother (List.mem_cons_of_mem _ hmem)
        · rintro ⟨⟨hname, hnodup⟩, hfresh⟩
          refine ⟨hnodup, fun other hother hmem => ?_⟩
          rcases List.mem_cons.mp hmem with rfl | hmem
          · exact hname hother
          · exact hfresh other (List.mem_cons_of_mem _ hother) hmem

/-- The first repeat stands behind names that are distinct and not seen, and is one of these or
seen. -/
theorem firstRepeat?_eq_some_iff {seen names : List String} {repeated : String} :
    firstRepeat? seen names = some repeated ↔
      ∃ before after, names = before ++ repeated :: after ∧
        firstRepeat? seen before = none ∧ (repeated ∈ before ∨ repeated ∈ seen) := by
  induction names generalizing seen with
  | nil => simp [firstRepeat?]
  | cons name names ih =>
      rw [firstRepeat?]
      by_cases hseen : name ∈ seen
      · rw [if_pos hseen]
        constructor
        · rintro ⟨⟩
          exact ⟨[], names, rfl, rfl, .inr hseen⟩
        · rintro ⟨before, after, hnames, hbefore, -⟩
          cases before with
          | nil => rw [(List.cons.inj hnames).1]
          | cons first before =>
              obtain ⟨rfl, -⟩ := List.cons.inj hnames
              rw [firstRepeat?, if_pos hseen] at hbefore
              cases hbefore
      · rw [if_neg hseen, ih]
        constructor
        · rintro ⟨before, after, rfl, hbefore, hrepeated⟩
          refine ⟨name :: before, after, rfl, ?_, ?_⟩
          · rw [firstRepeat?, if_neg hseen]
            exact hbefore
          · simpa [or_assoc, or_left_comm] using hrepeated
        · rintro ⟨before, after, hnames, hbefore, hrepeated⟩
          cases before with
          | nil =>
              obtain ⟨rfl, -⟩ := List.cons.inj hnames
              simp [hseen] at hrepeated
          | cons first before =>
              obtain ⟨rfl, rfl⟩ := List.cons.inj hnames
              rw [firstRepeat?, if_neg hseen] at hbefore
              refine ⟨before, after, rfl, hbefore, ?_⟩
              simpa [or_assoc, or_left_comm] using hrepeated

theorem create_eq_ok_iff {name : String} {headers : List String} {t : Table} :
    create name headers = .ok t ↔ headers ≠ [] ∧ headers.Nodup ∧ t = ⟨name, headers, []⟩ := by
  have hnone : firstRepeat? [] headers = none ↔ headers.Nodup := by
    rw [firstRepeat?_eq_none_iff]
    simp
  unfold create
  split
  · next hempty => simp [hempty]
  · next hne =>
      cases hrepeat : firstRepeat? [] headers with
      | none =>
          have hnodup : headers.Nodup := hnone.mp hrepeat
          simp [hne, hnodup, eq_comm]
      | some repeated =>
          have hnodup : ¬ headers.Nodup := by
            intro hnodup
            rw [hnone.mpr hnodup] at hrepeat
            cases hrepeat
          simp [hnodup]

theorem create_eq_noHeaders_iff {name : String} {headers : List String} :
    create name headers = .error .noHeaders ↔ headers = [] := by
  unfold create
  split
  · next hempty => simp [hempty]
  · next hne =>
      cases firstRepeat? [] headers <;> simp [hne]

/-- The reported header is the first one that repeats an earlier one. -/
theorem create_eq_duplicateHeader_iff {name repeated : String} {headers : List String} :
    create name headers = .error (.duplicateHeader repeated) ↔
      ∃ before after, headers = before ++ repeated :: after ∧ before.Nodup ∧ repeated ∈ before := by
  have hsome : firstRepeat? [] headers = some repeated ↔
      ∃ before after, headers = before ++ repeated :: after ∧ before.Nodup ∧ repeated ∈ before := by
    rw [firstRepeat?_eq_some_iff]
    simp [firstRepeat?_eq_none_iff]
  rw [← hsome]
  unfold create
  split
  · next hempty => simp [hempty, firstRepeat?]
  · next hne =>
      cases firstRepeat? [] headers <;> simp

/-! ## Adding headers -/

theorem nodup_addHeader {headers : List String} (h : headers.Nodup) (column : String) :
    (addHeader headers column).Nodup := by
  rw [addHeader]
  split
  · exact h
  · next hnew =>
      rw [← List.concat_eq_append]
      exact h.concat hnew

theorem prefix_addHeader (headers : List String) (column : String) :
    headers <+: addHeader headers column := by
  rw [addHeader]
  split
  · exact List.prefix_refl _
  · exact List.prefix_append _ _

theorem nodup_addHeaders {headers : List String} (h : headers.Nodup) (columns : List String) :
    (columns.foldl addHeader headers).Nodup := by
  induction columns generalizing headers with
  | nil => exact h
  | cons column columns ih => exact ih (nodup_addHeader h column)

theorem prefix_addHeaders (headers columns : List String) :
    headers <+: columns.foldl addHeader headers := by
  induction columns generalizing headers with
  | nil => exact List.prefix_refl _
  | cons column columns ih => exact (prefix_addHeader headers column).trans (ih _)

/-- Setting a cell changes the columns of a row as it changes the headers. -/
theorem columns_set_eq_addHeader (row : Row) (column : String) (cell : Cell) :
    (row.set column cell).columns = addHeader row.columns column :=
  Row.columns_set row column cell

/-- The columns of a row built from pairs are the keys, one after the other. -/
theorem columns_foldl_set (pairs : List (String × Cell)) (row : Row) :
    (pairs.foldl (fun r pair => r.set pair.1 pair.2) row).columns =
      (pairs.map Prod.fst).foldl addHeader row.columns := by
  induction pairs generalizing row with
  | nil => rfl
  | cons pair pairs ih =>
      rw [List.foldl_cons, ih, columns_set_eq_addHeader]
      rfl

/-- Adding distinct new names adds them as they are. -/
theorem addHeaders_of_nodup {headers columns : List String} (h : (headers ++ columns).Nodup) :
    columns.foldl addHeader headers = headers ++ columns := by
  induction columns generalizing headers with
  | nil => simp
  | cons column columns ih =>
      have hnew : column ∉ headers := by
        intro hmem
        exact (List.nodup_append.mp h).2.2 column hmem column List.mem_cons_self rfl
      have hsplit : headers ++ column :: columns = headers ++ [column] ++ columns := by simp
      rw [hsplit] at h ⊢
      rw [List.foldl_cons, addHeader, if_neg hnew, ih h]

/-- A row that is laid out by distinct headers has them as its columns. -/
theorem columns_layOut {headers : List String} (h : headers.Nodup) (row : Row) :
    (layOut headers row).columns = headers := by
  have hkeys : (headers.map fun header =>
      (header, (row.get? header).getD Cell.null)).map Prod.fst = headers := by
    rw [List.map_map]
    exact List.map_id' headers
  rw [layOut, Row.ofPairs, columns_foldl_set, hkeys]
  have hnew : ([] ++ headers).Nodup := by
    rw [List.nil_append]
    exact h
  exact (addHeaders_of_nodup hnew).trans (List.nil_append headers)

end Table

namespace Step

/-! ## Headers after steps -/

theorem nodup_onHeaders {headers : List String} (h : headers.Nodup) (step : Step) :
    (step.onHeaders headers).Nodup := by
  cases step with
  | keepMatching _ _ | keepWhere _ => exact h
  | average _ column | compute column _ => exact Table.nodup_addHeader h column
  | append other => exact Table.nodup_addHeaders h other.headers

theorem prefix_onHeaders (headers : List String) (step : Step) :
    headers <+: step.onHeaders headers := by
  cases step with
  | keepMatching _ _ | keepWhere _ => exact List.prefix_refl _
  | average _ column | compute column _ => exact Table.prefix_addHeader headers column
  | append other => exact Table.prefix_addHeaders headers other.headers

/-- **Headers stay distinct, and none is lost or moved.** -/
theorem headersAfter_spec {headers : List String} (h : headers.Nodup) (steps : List Step) :
    (headersAfter steps headers).Nodup ∧ headers <+: headersAfter steps headers := by
  induction steps generalizing headers with
  | nil => exact ⟨h, List.prefix_refl _⟩
  | cons step steps ih =>
      obtain ⟨hnodup, hprefix⟩ := ih (nodup_onHeaders h step)
      exact ⟨hnodup, (prefix_onHeaders headers step).trans hprefix⟩

/-! ## Columns after steps -/

/-- Whether a step appends a table. -/
def IsAppend : Step → Prop
  | append _ => True
  | _ => False

/-- A step changes the columns of a row as it changes the headers, and an append gives the row the
headers whatever its columns were. -/
theorem columns_onRow {headers : List String} {step : Step} {row next : Row}
    (hheaders : headers.Nodup) (hrow : row.columns = headers ∨ step.IsAppend)
    (h : step.onRow headers row = some next) : next.columns = step.onHeaders headers := by
  cases step with
  | append other =>
      cases h
      exact Table.columns_layOut (Table.nodup_addHeaders hheaders other.headers) row
  | keepMatching column matcher =>
      have hcolumns := hrow.resolve_right id
      obtain ⟨-, hkept⟩ := Option.ite_none_right_eq_some.mp h
      cases hkept
      exact hcolumns
  | keepWhere filter =>
      have hcolumns := hrow.resolve_right id
      obtain ⟨-, hkept⟩ := Option.ite_none_right_eq_some.mp h
      cases hkept
      exact hcolumns
  | average columns out =>
      have hcolumns := hrow.resolve_right id
      cases h
      rw [Table.columns_set_eq_addHeader, hcolumns]
      rfl
  | compute column formula =>
      have hcolumns := hrow.resolve_right id
      cases h
      rw [Table.columns_set_eq_addHeader, hcolumns]
      rfl

end Step

/-- A table is **laid out** when every row has the headers as its columns, in their order. -/
def Table.LaidOut (t : Table) : Prop := ∀ row ∈ t.rows, row.columns = t.headers

namespace Step

/-- A step keeps a table laid out, and an append makes it so. -/
theorem laidOut_run {step : Step} {t : Table} (hheaders : t.headers.Nodup)
    (h : t.LaidOut ∨ step.IsAppend) : (step.run t).LaidOut := by
  rw [run_eq]
  intro next hnext
  obtain ⟨row, hrow, hnext⟩ := List.mem_filterMap.mp hnext
  refine columns_onRow hheaders ?_ hnext
  rcases h with hlaid | happend
  · rcases List.mem_append.mp hrow with hrow | hrow
    · exact .inl (hlaid row hrow)
    · -- only an append brings rows
      cases step with
      | append other => exact .inr trivial
      | _ => cases hrow
  · exact .inr happend

/-- **Rows follow the headers** through a run of steps on a table that is laid out, or with an
append among the steps. -/
theorem laidOut_runAll {steps : List Step} {t : Table} (hheaders : t.headers.Nodup)
    (h : t.LaidOut ∨ ∃ step ∈ steps, step.IsAppend) : (runAll steps t).LaidOut := by
  induction steps generalizing t with
  | nil =>
      rcases h with hlaid | ⟨step, hstep, -⟩
      · exact hlaid
      · cases hstep
  | cons step steps ih =>
      have hnext : (step.run t).headers.Nodup := by
        rw [run_eq]
        exact nodup_onHeaders hheaders step
      refine ih hnext ?_
      rcases h with hlaid | ⟨other, hother, happend⟩
      · exact .inl (laidOut_run hheaders (.inl hlaid))
      · rcases List.mem_cons.mp hother with rfl | hother
        · exact .inl (laidOut_run hheaders (.inr happend))
        · exact .inr ⟨other, hother, happend⟩

end Step

/-! ## Programs -/

namespace Program

/-- The steps of a program are those of its transforms, in their order. -/
theorem compileFrom_eq_ok {index : Nat} {p : Program} {steps : List Step}
    (h : compileFrom index p = .ok steps) :
    List.Forall₂ (fun t step => Step.ofTransform t = .ok step) p steps := by
  induction p generalizing index steps with
  | nil =>
      cases h
      exact .nil
  | cons t p ih =>
      rw [compileFrom] at h
      cases hstep : Step.ofTransform t with
      | error fault =>
          rw [hstep] at h
          cases h
      | ok step =>
          rw [hstep] at h
          cases hrest : compileFrom (index + 1) p with
          | error fault =>
              simp only [hrest] at h
              cases h
          | ok rest =>
              simp only [hrest] at h
              cases h
              exact .cons hstep (ih hrest)

/-- A program that runs has been compiled, transform by transform. -/
theorem apply_eq_ok {p : Program} {base out : Table} (h : p.apply base = .ok out) :
    ∃ compiled : CompiledProgram, out = compiled.apply base ∧
      List.Forall₂ (fun t step => Step.ofTransform t = .ok step) p compiled.steps := by
  obtain ⟨compiled, hcompile, h⟩ := bind_eq_ok h
  obtain ⟨steps, hsteps, hcompile⟩ := bind_eq_ok hcompile
  cases h
  cases hcompile
  exact ⟨⟨steps, summarize p⟩, rfl, compileFrom_eq_ok hsteps⟩

/-- Each transform of a compiled program has its step. -/
theorem exists_step_of_mem {p : Program} {steps : List Step} {t : Transform}
    (h : List.Forall₂ (fun t step => Step.ofTransform t = .ok step) p steps) (hmem : t ∈ p) :
    ∃ step ∈ steps, Step.ofTransform t = .ok step := by
  induction h with
  | nil => cases hmem
  | cons hstep _ ih =>
      rcases List.mem_cons.mp hmem with rfl | hmem
      · exact ⟨_, List.mem_cons_self, hstep⟩
      · obtain ⟨step, hmem, hstep⟩ := ih hmem
        exact ⟨step, List.mem_cons_of_mem _ hmem, hstep⟩

/-- An append is compiled to itself. -/
theorem exists_append_of_mem {p : Program} {steps : List Step} {other : Table}
    (h : List.Forall₂ (fun t step => Step.ofTransform t = .ok step) p steps)
    (hmem : Transform.append other ∈ p) : ∃ step ∈ steps, step.IsAppend := by
  obtain ⟨step, hstep, happend⟩ := exists_step_of_mem h hmem
  cases happend
  exact ⟨_, hstep, trivial⟩

/-- **Tables are well formed**, from their creation on and through all programs. A table is created
from headers that are there and pairwise distinct, and otherwise the first header that repeats an
earlier one is named. A program over a table with distinct headers has an output with distinct
headers, of which those of the table are the first; and if the rows of the table have the headers as
their columns, or there is an append in the program, then so do the rows of the output. -/
theorem wellFormed_apply :
    (∀ (name : String) (headers : List String),
      (∀ t : Table, Table.create name headers = .ok t ↔
        headers ≠ [] ∧ headers.Nodup ∧ t = ⟨name, headers, []⟩) ∧
      (Table.create name headers = .error .noHeaders ↔ headers = []) ∧
      ∀ repeated : String, Table.create name headers = .error (.duplicateHeader repeated) ↔
        ∃ before after, headers = before ++ repeated :: after ∧
          before.Nodup ∧ repeated ∈ before) ∧
    ∀ (p : Program) (base out : Table), base.headers.Nodup → p.apply base = .ok out →
      out.headers.Nodup ∧ base.headers <+: out.headers ∧
        ((∀ row ∈ base.rows, row.columns = base.headers) ∨
            (∃ other : Table, Transform.append other ∈ p) →
          ∀ row ∈ out.rows, row.columns = out.headers) := by
  refine ⟨fun name headers => ⟨fun t => Table.create_eq_ok_iff, Table.create_eq_noHeaders_iff,
    fun repeated => Table.create_eq_duplicateHeader_iff⟩, ?_⟩
  intro p base out hheaders hout
  obtain ⟨compiled, rfl, hsteps⟩ := apply_eq_ok hout
  rw [CompiledProgram.headers_apply, CompiledProgram.rows_apply]
  have hafter := Step.headersAfter_spec hheaders compiled.steps
  have hrun : (Step.runAll compiled.steps base).headers =
      Step.headersAfter compiled.steps base.headers := by
    rw [Step.runAll_eq]
  refine ⟨hrun ▸ hafter.1, hrun ▸ hafter.2, fun hbase => ?_⟩
  refine Step.laidOut_runAll hheaders (hbase.imp_right ?_)
  rintro ⟨other, hother⟩
  exact exists_append_of_mem hsteps hother

/-- A table with a row that lacks a column and has another, and a program that adds a column,
appends a table with a repeated header and adds one more. -/
def raggedSample : Program × Table :=
  ([.average ["a"] "b", .append ⟨"other", ["c", "a", "c"], [.empty]⟩, .average ["c"] "d"],
    ⟨"base", ["a", "e"], [Row.ofPairs [("x", .null), ("a", .number 1)]]⟩)

theorem wellFormed_apply_raggedSample :
    ∃ out : Table, raggedSample.1.apply raggedSample.2 = .ok out ∧
      out.headers = ["a", "e", "b", "c", "d"] ∧ out.headers.Nodup ∧
      ∀ row ∈ out.rows, row.columns = out.headers := by
  have hout : raggedSample.1.apply raggedSample.2 =
      .ok ((CompiledProgram.mk [.average ["a"] "b",
        .append ⟨"other", ["c", "a", "c"], [.empty]⟩, .average ["c"] "d"]
        (summarize raggedSample.1)).apply raggedSample.2) := rfl
  obtain ⟨hnodup, -, hcolumns⟩ := wellFormed_apply.2 _ _ _ (by decide) hout
  refine ⟨_, hout, ?_, hnodup, hcolumns (.inr ⟨_, List.mem_cons_of_mem _ List.mem_cons_self⟩)⟩
  rw [CompiledProgram.headers_apply, Step.runAll_eq]
  decide

end Program

end Tabular
