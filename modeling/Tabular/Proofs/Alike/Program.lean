import Mathlib.Data.List.Forall2
import Tabular.Proofs.Alike.Reading
import Tabular.Proofs.Program.RowByRow

set_option autoImplicit false

/-! # Programs do not tell numbers from their texts

Take a table and a second one in which some numbers and dates are written as texts, or the other way
round. A program does the same with both (`indistinguishable_of_alike`): each step keeps rows alike
or drops both of a pair (`Step.onRow_alike`), so alike rows have alike fates, and so have the rows
that alike appended tables bring. What a program computes does not depend on the way its input is
written, so the cells that it writes are not only alike but equal (`Row.AgreeOn`), and they stay so
until the end.
-/

namespace Tabular

/-! ## Rows -/

namespace Row

/-- Two rows are **alike** when they have the same columns in the same order, with alike cells. -/
def Alike (r s : Row) : Prop :=
  List.Forall₂ (fun x y => x.1 = y.1 ∧ x.2.Alike y.2) r.entries s.entries

theorem Alike.refl (r : Row) : r.Alike r :=
  List.forall₂_same.mpr fun x _ => ⟨rfl, .refl x.2⟩

/-- Alike rows have alike cells. -/
theorem Alike.get? {r s : Row} (h : r.Alike s) : Lookup.Alike r.get? s.get? := by
  intro column
  show Option.Rel _ (r.entries.lookup column) (s.entries.lookup column)
  unfold Row.Alike at h
  generalize r.entries = entries at h
  generalize s.entries = entries' at h
  induction h with
  | nil => exact .none
  | @cons x y _ _ hxy _ ih =>
      obtain ⟨key, cell⟩ := x
      obtain ⟨key', cell'⟩ := y
      obtain ⟨rfl, hcell⟩ := hxy
      rw [lookup_cons_eq_ite, lookup_cons_eq_ite]
      split
      · exact .some hcell
      · exact ih

/-- Setting a column to alike cells keeps rows alike. -/
theorem Alike.set {r s : Row} {x y : Cell} (h : r.Alike s) (column : String) (hxy : x.Alike y) :
    (r.set column x).Alike (s.set column y) := by
  show List.Forall₂ _ (putEntry column x r.entries).2 (putEntry column y s.entries).2
  unfold Row.Alike at h
  generalize r.entries = entries at h
  generalize s.entries = entries' at h
  induction h with
  | nil => exact .cons ⟨rfl, hxy⟩ .nil
  | @cons first first' _ _ hfirst hrest ih =>
      obtain ⟨key, cell⟩ := first
      obtain ⟨key', cell'⟩ := first'
      obtain ⟨rfl, hcell⟩ := hfirst
      by_cases hkey : key = column
      · simp only [putEntry, if_pos hkey]
        exact .cons ⟨rfl, hxy⟩ hrest
      · simp only [putEntry, if_neg hkey]
        exact .cons ⟨rfl, hcell⟩ ih

/-- Alike rows **agree** on some columns when they have equal cells there. -/
def AgreeOn (columns : List String) (r s : Row) : Prop :=
  r.Alike s ∧ ∀ column ∈ columns, r.get? column = s.get? column

theorem agreeOn_nil {r s : Row} : AgreeOn [] r s ↔ r.Alike s := by
  simp [AgreeOn]

section

variable {columns : List String} {r s : Row} (h : AgreeOn columns r s)
include h

/-- Setting a column to alike cells, equal ones if need be, keeps the agreement. -/
theorem AgreeOn.set {column : String} {x y : Cell} (hxy : x.Alike y)
    (hequal : column ∈ columns → x = y) :
    AgreeOn columns (r.set column x) (s.set column y) := by
  refine ⟨h.1.set column hxy, fun name hname => ?_⟩
  rw [get?_set, get?_set]
  by_cases hcolumn : name = column
  · subst hcolumn
    rw [if_pos rfl, if_pos rfl, hequal hname]
  · rw [if_neg hcolumn, if_neg hcolumn, h.2 name hname]

/-- Setting a column to the same cell adds it to the agreement. -/
theorem AgreeOn.write (column : String) (cell : Cell) :
    AgreeOn (column :: columns) (r.set column cell) (s.set column cell) := by
  refine ⟨h.1.set column (.refl cell), fun name hname => ?_⟩
  rw [get?_set, get?_set]
  by_cases hcolumn : name = column
  · rw [if_pos hcolumn, if_pos hcolumn]
  · rw [if_neg hcolumn, if_neg hcolumn, h.2 name ((List.mem_cons.mp hname).resolve_left hcolumn)]

/-- Laying out keeps the agreement. -/
theorem AgreeOn.layOut (headers : List String) :
    AgreeOn columns (Table.layOut headers r) (Table.layOut headers s) := by
  have hcell : ∀ header, ((r.get? header).getD .null).Alike ((s.get? header).getD .null) := by
    intro header
    have hrel := h.1.get? header
    generalize r.get? header = x at hrel ⊢
    generalize s.get? header = y at hrel ⊢
    cases hrel with
    | none => exact .refl _
    | some hxy => exact hxy
  have hpairs : List.Forall₂
      (fun p q : String × Cell => p.1 = q.1 ∧ p.2.Alike q.2 ∧ (p.1 ∈ columns → p.2 = q.2))
      (headers.map fun header => (header, (r.get? header).getD .null))
      (headers.map fun header => (header, (s.get? header).getD .null)) := by
    rw [List.forall₂_map_left_iff, List.forall₂_map_right_iff, List.forall₂_same]
    exact fun header _ => ⟨rfl, hcell header, fun hheader => by rw [h.2 header hheader]⟩
  refine List.rel_foldl ?_ ⟨.refl empty, fun column _ => rfl⟩ hpairs
  rintro r' s' hrow ⟨column, x⟩ ⟨column', y⟩ ⟨rfl, hxy, hequal⟩
  exact hrow.set hxy hequal

end

end Row

/-! ## Tables -/

/-- Two tables are **alike** when they have the same name and headers, and alike rows. -/
structure Table.Alike (t t' : Table) : Prop where
  name : t.name = t'.name
  headers : t.headers = t'.headers
  rows : List.Forall₂ Row.Alike t.rows t'.rows

/-! ## Steps -/

namespace Step

/-- Two steps are **alike** when they are equal, or append alike tables. -/
def Alike (step step' : Step) : Prop :=
  step = step' ∨ ∃ other other', step = append other ∧ step' = append other' ∧ other.Alike other'

/-- The columns that a step writes. -/
def written : Step → List String
  | average _ out => [out]
  | compute column _ => [column]
  | _ => []

/-- What a formula or a mean gives is the same cell for alike rows. -/
theorem computedCell_alike (formula : Formula) {r s : Row} (h : r.Alike s) :
    computedCell formula r = computedCell formula s := by
  rw [computedCell, computedCell, formula.value_alike h.get?]

theorem rowMean_alike (columns : List String) {r s : Row} (h : r.Alike s) :
    rowMean r columns = rowMean s columns := by
  simp only [rowMean, h.get?.number?]

theorem accepts_alike (matcher : TextMatcher) (column : String) {r s : Row} (h : r.Alike s) :
    matcher.accepts (r.get? column) = matcher.accepts (s.get? column) := by
  simp only [TextMatcher.accepts, h.get?.toText]

variable {step step' : Step} (hstep : step.Alike step')
include hstep

theorem onHeaders_alike (headers : List String) :
    step.onHeaders headers = step'.onHeaders headers := by
  rcases hstep with rfl | ⟨other, other', rfl, rfl, hother⟩
  · rfl
  · rw [onHeaders, onHeaders, hother.headers]

theorem brought_alike : List.Forall₂ Row.Alike step.brought step'.brought := by
  rcases hstep with rfl | ⟨other, other', rfl, rfl, hother⟩
  · exact List.forall₂_same.mpr fun row _ => .refl row
  · exact hother.rows

/-- **A step keeps rows alike** that it does not drop, and drops both or none. The cells that it
writes are equal. -/
theorem onRow_alike (headers : List String) {columns : List String} {r s : Row}
    (h : Row.AgreeOn columns r s) :
    Option.Rel (Row.AgreeOn (step.written ++ columns)) (step.onRow headers r)
      (step'.onRow headers s) := by
  rcases hstep with rfl | ⟨other, other', rfl, rfl, hother⟩
  · cases step with
    | keepMatching column matcher =>
        simp only [onRow, accepts_alike matcher column h.1]
        split
        · exact .some h
        · exact .none
    | keepWhere filter =>
        simp only [onRow, filter.accepts_alike h.1.get?]
        split
        · exact .some h
        · exact .none
    | average columns out =>
        simp only [onRow, rowMean_alike columns h.1]
        exact .some (h.write out _)
    | compute column formula =>
        simp only [onRow, computedCell_alike formula h.1]
        exact .some (h.write column _)
    | append other => exact .some (h.layOut _)
  · simp only [onRow, onHeaders, hother.headers]
    exact .some (h.layOut _)

omit hstep

/-! ## Runs of steps -/

/-- The columns that some steps write, those of the last step first. -/
def writtenBy : List Step → List String
  | [] => []
  | step :: steps => writtenBy steps ++ step.written

variable {steps steps' : List Step} (hsteps : List.Forall₂ Alike steps steps')
include hsteps

theorem headersAfter_alike (headers : List String) :
    headersAfter steps headers = headersAfter steps' headers := by
  induction hsteps generalizing headers with
  | nil => rfl
  | cons hstep _ ih =>
      unfold headersAfter at ih ⊢
      rw [List.foldl_cons, List.foldl_cons, onHeaders_alike hstep, ih]

/-- **Alike rows have alike fates**, with equal cells in all columns that are written. -/
theorem fate_alike (headers : List String) {columns : List String} {r s : Row}
    (h : Row.AgreeOn columns r s) :
    Option.Rel (Row.AgreeOn (writtenBy steps ++ columns)) (fate steps headers r)
      (fate steps' headers s) := by
  induction hsteps generalizing headers columns r s with
  | nil => exact .some h
  | @cons step step' steps steps' hstep _ ih =>
      have hrow := onRow_alike hstep headers h
      rw [fate, fate, ← onHeaders_alike hstep]
      generalize step.onRow headers r = r' at hrow ⊢
      generalize step'.onRow headers s = s' at hrow ⊢
      cases hrow with
      | none => exact .none
      | some hrow =>
          rw [writtenBy, List.append_assoc]
          exact ih (step.onHeaders headers) hrow

/-- The rows of alike tables keep alike through alike steps, and so do those that the steps bring. -/
theorem survivors_alike (headers : List String) {columns : List String} {rows rows' : List Row}
    (h : List.Forall₂ (Row.AgreeOn columns) rows rows') :
    List.Forall₂ (Row.AgreeOn (writtenBy steps ++ columns)) (rows.filterMap (fate steps headers))
      (rows'.filterMap (fate steps' headers)) :=
  List.rel_filterMap (fun _ _ hrow => fate_alike hsteps headers hrow) h

theorem tail_alike (headers : List String) :
    List.Forall₂ Row.Alike (tail steps headers) (tail steps' headers) := by
  induction hsteps generalizing headers with
  | nil => exact .nil
  | @cons step step' steps steps' hstep hsteps ih =>
      have hbrought : List.Forall₂ (Row.AgreeOn []) step.brought step'.brought :=
        (brought_alike hstep).imp fun _ _ hrow => Row.agreeOn_nil.mpr hrow
      rw [tail, tail, ← onHeaders_alike hstep]
      exact List.rel_append
        ((survivors_alike (.cons hstep hsteps) headers hbrought).imp fun _ _ hrow => hrow.1)
        (ih (step.onHeaders headers))

/-- **Alike steps turn alike tables into alike tables.** -/
theorem runAll_alike {t t' : Table} (ht : t.Alike t') :
    (runAll steps t).Alike (runAll steps' t') := by
  have hrows : List.Forall₂ (Row.AgreeOn []) t.rows t'.rows :=
    ht.rows.imp fun _ _ hrow => Row.agreeOn_nil.mpr hrow
  rw [runAll_eq, runAll_eq, ← ht.headers]
  exact ⟨ht.name, headersAfter_alike hsteps t.headers,
    List.rel_append ((survivors_alike hsteps t.headers hrows).imp fun _ _ hrow => hrow.1)
      (tail_alike hsteps t.headers)⟩

omit hsteps

/-- The rows that are there after the first `n` of some steps, as the other steps leave them. -/
def present (steps : List Step) (n : Nat) (t : Table) : List Row :=
  (runAll (steps.take n) t).rows.filterMap
    (fate (steps.drop n) (runAll (steps.take n) t).headers)

/-- They are the first rows of the result; behind them are those that the other steps bring. -/
theorem rows_runAll_present (steps : List Step) (n : Nat) (t : Table) :
    (runAll steps t).rows = present steps n t ++
      tail (steps.drop n) (headersAfter (steps.take n) t.headers) := by
  have hsplit : runAll steps t = runAll (steps.drop n) (runAll (steps.take n) t) := by
    unfold runAll
    rw [← List.foldl_append, List.take_append_drop]
  have hheaders : (runAll (steps.take n) t).headers = headersAfter (steps.take n) t.headers := by
    rw [runAll_eq]
  rw [hsplit, runAll_eq (steps.drop n), present, hheaders]

/-- In alike tables, the rows that were there when a column was written have equal cells in it. -/
theorem present_alike (hsteps : List.Forall₂ Alike steps steps') {t t' : Table} (ht : t.Alike t')
    (n : Nat) :
    List.Forall₂ (Row.AgreeOn (writtenBy (steps.drop n))) (present steps n t)
      (present steps' n t') := by
  have hfirst := runAll_alike (List.forall₂_take n hsteps) ht
  have hrows : List.Forall₂ (Row.AgreeOn []) (runAll (steps.take n) t).rows
      (runAll (steps'.take n) t').rows :=
    hfirst.rows.imp fun _ _ hrow => Row.agreeOn_nil.mpr hrow
  have hlast := survivors_alike (List.forall₂_drop n hsteps) (runAll (steps.take n) t).headers hrows
  rw [List.append_nil] at hlast
  unfold present
  rw [← hfirst.headers]
  exact hlast

end Step

/-! ## Programs -/

/-- Two transforms are **alike** when they are equal, or append alike tables. -/
def Transform.Alike (t t' : Transform) : Prop :=
  t = t' ∨ ∃ other other', t = .append other ∧ t' = .append other' ∧ other.Alike other'

/-- Alike transforms have the same fault, or alike steps. -/
theorem Step.ofTransform_alike {t t' : Transform} (ht : t.Alike t') :
    (∃ fault, ofTransform t = .error fault ∧ ofTransform t' = .error fault) ∨
      ∃ step step', ofTransform t = .ok step ∧ ofTransform t' = .ok step' ∧ step.Alike step' := by
  rcases ht with rfl | ⟨other, other', rfl, rfl, hother⟩
  · cases hstep : ofTransform t with
    | error fault => exact .inl ⟨fault, rfl, rfl⟩
    | ok step => exact .inr ⟨step, step, rfl, rfl, .inl rfl⟩
  · exact .inr ⟨append other, append other', rfl, rfl, .inr ⟨other, other', rfl, rfl, hother⟩⟩

namespace Program

/-- Two programs are **alike** when their transforms are, one by one. -/
def Alike (p p' : Program) : Prop := List.Forall₂ Transform.Alike p p'

theorem summarize_alike {p p' : Program} (hp : p.Alike p') : summarize p = summarize p' := by
  have hlabels : p.map Transform.label = p'.map Transform.label := by
    unfold Alike at hp
    induction hp with
    | nil => rfl
    | cons ht _ ih =>
        rw [List.map_cons, List.map_cons, ih]
        rcases ht with rfl | ⟨other, other', rfl, rfl, hother⟩
        · rfl
        · rw [Transform.label, Transform.label, hother.name]
  rw [summarize, summarize, hlabels]

/-- Alike programs have the same fault, or compile to alike steps. -/
theorem compileFrom_alike {p p' : Program} (hp : p.Alike p') (index : Nat) :
    (∃ fault, compileFrom index p = .error fault ∧ compileFrom index p' = .error fault) ∨
      ∃ steps steps', compileFrom index p = .ok steps ∧ compileFrom index p' = .ok steps' ∧
        List.Forall₂ Step.Alike steps steps' := by
  unfold Alike at hp
  induction hp generalizing index with
  | nil => exact .inr ⟨[], [], rfl, rfl, .nil⟩
  | @cons t t' p p' ht _ ih =>
      rw [compileFrom, compileFrom]
      rcases Step.ofTransform_alike ht with ⟨fault, hfault, hfault'⟩ | ⟨step, step', hok, hok', hstep⟩
      · rw [hfault, hfault']
        exact .inl ⟨⟨index, fault⟩, rfl, rfl⟩
      · rw [hok, hok']
        rcases ih (index + 1) with ⟨fault, hfault, hfault'⟩ | ⟨steps, steps', hok, hok', hsteps⟩
        · rw [hfault, hfault']
          exact .inl ⟨fault, rfl, rfl⟩
        · rw [hok, hok']
          exact .inr ⟨step :: steps, step' :: steps', rfl, rfl, .cons hstep hsteps⟩

end Program

/-- Compiled programs with alike steps turn alike tables into alike tables. -/
theorem CompiledProgram.apply_alike {c c' : CompiledProgram}
    (hsteps : List.Forall₂ Step.Alike c.steps c'.steps) (hsummary : c.summary = c'.summary)
    {base base' : Table} (hbase : base.Alike base') :
    (c.apply base).Alike (c'.apply base') := by
  have hrun := Step.runAll_alike hsteps hbase
  refine ⟨?_, ?_, ?_⟩
  · rw [name_apply, name_apply, hbase.name, hsummary]
  · rw [headers_apply, headers_apply, hrun.headers]
  · rw [rows_apply, rows_apply]
    exact hrun.rows

/-- **Numbers and dates are not told from the texts that show them.** Two rows with the same columns
and alike cells are the same for every filter, every formula and all styles. Two programs that are
equal up to alike cells in the tables that they append have the same fault, or turn alike tables into
alike tables: with the same name, the same headers and as many rows, one by one alike. Moreover,
rows that were there when a step wrote a column have equal cells in this column. -/
theorem indistinguishable_of_alike {r s : Row} (hrow : r.Alike s) {p p' : Program}
    (hprogram : p.Alike p') {base base' : Table} (hbase : base.Alike base') :
    (∀ f : Filter, f.accepts r.get? = f.accepts s.get?) ∧
    (∀ f : Formula, f.value r.get? = f.value s.get?) ∧
    (∀ styles : Styles, styles.matchingIds r.get? = styles.matchingIds s.get? ∧
      styles.resolve r.get? = styles.resolve s.get?) ∧
    ((∃ fault, p.apply base = .error fault ∧ p'.apply base' = .error fault) ∨
      ∃ c c' : CompiledProgram, p.compile = .ok c ∧ p'.compile = .ok c' ∧
        p.apply base = .ok (c.apply base) ∧ p'.apply base' = .ok (c'.apply base') ∧
        (c.apply base).Alike (c'.apply base') ∧
        ∀ n : Nat,
          (c.apply base).rows = Step.present c.steps n base ++
            Step.tail (c.steps.drop n) (Step.headersAfter (c.steps.take n) base.headers) ∧
          (c'.apply base').rows = Step.present c'.steps n base' ++
            Step.tail (c'.steps.drop n) (Step.headersAfter (c'.steps.take n) base'.headers) ∧
          List.Forall₂ (Row.AgreeOn (Step.writtenBy (c.steps.drop n)))
            (Step.present c.steps n base) (Step.present c'.steps n base')) := by
  have hlook := hrow.get?
  refine ⟨fun f => f.accepts_alike hlook, fun f => f.value_alike hlook, fun styles => ?_, ?_⟩
  · rw [Styles.matchingIds, Styles.matchingIds, Styles.resolve, Styles.resolve,
      styles.matchingRules_alike hlook]
    exact ⟨rfl, rfl⟩
  · have hsummary := Program.summarize_alike hprogram
    rcases Program.compileFrom_alike hprogram 0 with
      ⟨fault, hfault, hfault'⟩ | ⟨steps, steps', hok, hok', hsteps⟩
    · refine .inl ⟨fault, ?_, ?_⟩
      · rw [Program.apply, Program.compile, hfault]
        rfl
      · rw [Program.apply, Program.compile, hfault']
        rfl
    · have hcompile : p.compile = .ok ⟨steps, summarize p⟩ := by
        rw [Program.compile, hok]
        rfl
      have hcompile' : p'.compile = .ok ⟨steps', summarize p'⟩ := by
        rw [Program.compile, hok']
        rfl
      refine .inr ⟨_, _, hcompile, hcompile', ?_, ?_,
        CompiledProgram.apply_alike hsteps hsummary hbase, fun n => ⟨?_, ?_, ?_⟩⟩
      · rw [Program.apply, hcompile]
        rfl
      · rw [Program.apply, hcompile']
        rfl
      · rw [CompiledProgram.rows_apply, Step.rows_runAll_present steps n base]
      · rw [CompiledProgram.rows_apply, Step.rows_runAll_present steps' n base']
      · exact Step.present_alike hsteps hbase n

/-- A row with a number, a date and a text, or with the texts that show the first two. -/
def mixedSample (number date : Cell) : Row :=
  Row.ofPairs [("x", number), ("d", date), ("t", .text "a")]

/-- A program that computes a column, appends a row, writes a mean and tests the text of a number. -/
def mixedProgram (number : Cell) : Program :=
  [.compute "y" "x", .append ⟨"other", ["x"], [Row.ofPairs [("x", number)]]⟩,
    .average ["x", "d"] "m", .keepMatching "x" .contains (.one ".5") true]

theorem indistinguishable_of_alike_mixedSample :
    (∀ f : Filter, f.accepts (mixedSample (.number 1.5) (.date 86400000)).get? =
      f.accepts (mixedSample (.text "1.5") (.text "86400000")).get?) ∧
    ∃ out out' : Table,
      (mixedProgram (.number 1.5)).apply
        ⟨"base", ["x"], [mixedSample (.number 1.5) (.date 86400000)]⟩ = .ok out ∧
      (mixedProgram (.text "1.5")).apply
        ⟨"base", ["x"], [mixedSample (.text "1.5") (.text "86400000")]⟩ = .ok out' ∧
      out.Alike out' ∧ out.rows.length = 2 := by
  have hnumber : Cell.Alike (.number 1.5) (.text "1.5") := by
    have hshow : showNumber 1.5 = "1.5" := by decide +kernel
    exact .inr (.inr (hshow ▸ .number (by decide +kernel)))
  have hdate : Cell.Alike (.date 86400000) (.text "86400000") := by
    have hshow : showInteger 86400000 = "86400000" := by decide +kernel
    exact .inr (.inr (hshow ▸ .date (by decide) (by decide)))
  have hrow : (mixedSample (.number 1.5) (.date 86400000)).Alike
      (mixedSample (.text "1.5") (.text "86400000")) :=
    .cons ⟨rfl, hnumber⟩ (.cons ⟨rfl, hdate⟩ (.cons ⟨rfl, .refl _⟩ .nil))
  have hother : Table.Alike ⟨"other", ["x"], [Row.ofPairs [("x", .number 1.5)]]⟩
      ⟨"other", ["x"], [Row.ofPairs [("x", .text "1.5")]]⟩ :=
    ⟨rfl, rfl, .cons (.cons ⟨rfl, hnumber⟩ .nil) .nil⟩
  have hprogram : (mixedProgram (.number 1.5)).Alike (mixedProgram (.text "1.5")) :=
    .cons (.inl rfl) (.cons (.inr ⟨_, _, rfl, rfl, hother⟩) (.cons (.inl rfl) (.cons (.inl rfl) .nil)))
  have hbase : Table.Alike ⟨"base", ["x"], [mixedSample (.number 1.5) (.date 86400000)]⟩
      ⟨"base", ["x"], [mixedSample (.text "1.5") (.text "86400000")]⟩ :=
    ⟨rfl, rfl, .cons hrow .nil⟩
  obtain ⟨hfilter, -, -, hruns⟩ := indistinguishable_of_alike hrow hprogram hbase
  have hlength : ((mixedProgram (.number 1.5)).apply
      ⟨"base", ["x"], [mixedSample (.number 1.5) (.date 86400000)]⟩).toOption.map
        (·.rows.length) = some 2 := by
    decide +kernel
  refine ⟨hfilter, ?_⟩
  rcases hruns with ⟨fault, hfault, -⟩ | ⟨c, c', -, -, hok, hok', halike, -⟩
  · rw [hfault] at hlength
    cases hlength
  · rw [hok] at hlength
    exact ⟨_, _, hok, hok', halike, Option.some.inj hlength⟩

end Tabular
