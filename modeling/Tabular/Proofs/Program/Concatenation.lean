import Tabular.Proofs.Program.Headers

set_option autoImplicit false

/-! # Programs one after the other

A program is compiled transform by transform, so a concatenation compiles when both of its parts do,
and otherwise is at fault where the first of them is. A transform is at fault when its own text is
(`Transform.Fails`), and the place that is reported is the first one with such a transform.

Running a concatenation is running its parts one after the other. Only the name of the result tells
the difference: each run adds the labels of its transforms, and no label is empty, so a run adds
nothing only if there is no transform.
-/

namespace Tabular

/-! ## Labels -/

/-- No label is empty. -/
theorem Transform.label_ne (t : Transform) : t.label ≠ "" := by
  cases t <;> simp [label, ToString.toString, String.append_eq_empty_iff]

/-- Only a program without transforms has an empty summary. -/
theorem summarize_eq_empty_iff {p : Program} : summarize p = "" ↔ p = [] := by
  constructor
  · intro h
    match p with
    | [] => rfl
    | [t] =>
        rw [summarize, List.map_singleton, String.intercalate_singleton] at h
        exact absurd h t.label_ne
    | t :: u :: rest =>
        rw [summarize, List.map_cons, List.map_cons, String.intercalate_cons_cons,
          String.append_eq_empty_iff, String.append_eq_empty_iff] at h
        exact absurd h.1.1 t.label_ne
  · rintro rfl
    rfl

theorem summarize_append {p q : Program} (hp : p ≠ []) (hq : q ≠ []) :
    summarize (p ++ q) = summarize p ++ " + " ++ summarize q := by
  rw [summarize, List.map_append, String.intercalate_append_of_ne_nil]
  · rfl
  · simpa using hp
  · simpa using hq

/-! ## Transforms at fault -/

/-- A transform **fails** with a fault when that is the fault of its text. Only conditions and
formulas can be at fault. -/
inductive Transform.Fails : Transform → Fault → Prop
  | keepWhere {text : String} {fault : Fault} (h : Filter.compile text = .error fault) :
      Fails (.keepWhere text) fault
  | compute (column : String) {text : String} {fault : Fault}
      (h : Formula.compile text .extended = .error fault) : Fails (.compute column text) fault

/-- A transform that has no step fails, and no other one does. -/
theorem Step.ofTransform_eq_error_iff {t : Transform} {fault : Fault} :
    ofTransform t = .error fault ↔ t.Fails fault := by
  constructor
  · intro h
    cases t with
    | keepMatching column test value caseSensitive => cases h
    | average columns out => cases h
    | append other => cases h
    | keepWhere text =>
        rw [ofTransform] at h
        cases hcompile : Filter.compile text with
        | ok f =>
            rw [hcompile] at h
            cases h
        | error other =>
            rw [hcompile] at h
            cases h
            exact .keepWhere hcompile
    | compute column text =>
        rw [ofTransform] at h
        cases hcompile : Formula.compile text .extended with
        | ok f =>
            rw [hcompile] at h
            cases h
        | error other =>
            rw [hcompile] at h
            cases h
            exact .compute column hcompile
  · intro h
    cases h with
    | keepWhere h =>
        rw [ofTransform, h]
        rfl
    | compute column h =>
        rw [ofTransform, h]
        rfl

/-! ## Compiling -/

/-- A fault as it is reported when some number of transforms stand in front. -/
def ProgramFault.shift (n : Nat) (fault : ProgramFault) : ProgramFault :=
  ⟨n + fault.index, fault.source⟩

namespace Program

/-- Where transforms stand matters for the place of a fault only. -/
theorem compileFrom_add (n index : Nat) (p : Program) :
    compileFrom (n + index) p = (compileFrom index p).mapError (ProgramFault.shift n) := by
  induction p generalizing index with
  | nil => rfl
  | cons t p ih =>
      rw [compileFrom, compileFrom, Nat.add_assoc, ih]
      cases Step.ofTransform t with
      | error fault => rfl
      | ok step =>
          cases compileFrom (index + 1) p with
          | error fault => rfl
          | ok steps => rfl

/-- A concatenation is compiled part by part. -/
theorem compileFrom_append (index : Nat) (p q : Program) :
    compileFrom index (p ++ q) = (do
      let steps ← compileFrom index p
      let later ← compileFrom (index + p.length) q
      pure (steps ++ later)) := by
  induction p generalizing index with
  | nil =>
      show compileFrom index q = (compileFrom index q >>= fun later => pure later)
      exact (bind_pure (compileFrom index q)).symm
  | cons t p ih =>
      rw [List.cons_append, compileFrom, compileFrom, ih, List.length_cons, Nat.add_comm p.length 1,
        ← Nat.add_assoc]
      cases Step.ofTransform t with
      | error fault => rfl
      | ok step =>
          cases compileFrom (index + 1) p with
          | error fault => rfl
          | ok steps => cases compileFrom (index + 1 + p.length) q <;> rfl

/-- **The first transform at fault is reported**, with its own fault. -/
theorem compileFrom_eq_error {index : Nat} {p : Program} {fault : ProgramFault}
    (h : compileFrom index p = .error fault) :
    ∃ (before after : Program) (t : Transform), p = before ++ t :: after ∧
      fault.index = index + before.length ∧ t.Fails fault.source ∧
      ∀ u ∈ before, ∀ other : Fault, ¬ u.Fails other := by
  induction p generalizing index with
  | nil => cases h
  | cons t p ih =>
      rw [compileFrom] at h
      cases hstep : Step.ofTransform t with
      | error source =>
          rw [hstep] at h
          cases h
          exact ⟨[], p, t, rfl, rfl, Step.ofTransform_eq_error_iff.mp hstep,
            List.forall_mem_nil _⟩
      | ok step =>
          rw [hstep] at h
          dsimp only at h
          split at h
          · next other hrest =>
              cases h
              obtain ⟨before, after, u, rfl, hindex, hu, hbefore⟩ := ih hrest
              refine ⟨t :: before, after, u, rfl, ?_, hu, List.forall_mem_cons.mpr ⟨?_, hbefore⟩⟩
              · rw [hindex, List.length_cons]
                omega
              · intro source hsource
                rw [Step.ofTransform_eq_error_iff.mpr hsource] at hstep
                cases hstep
          · cases h

/-- The transforms of what compiles do not fail. -/
theorem not_fails_of_compileFrom {index : Nat} {p : Program} {steps : List Step}
    (h : compileFrom index p = .ok steps) : ∀ t ∈ p, ∀ fault : Fault, ¬ t.Fails fault := by
  intro t ht fault hfails
  obtain ⟨step, -, hstep⟩ := exists_step_of_mem (compileFrom_eq_ok h) ht
  rw [Step.ofTransform_eq_error_iff.mpr hfails] at hstep
  cases hstep

section

variable {p q : Program} {P : CompiledProgram}

theorem compileFrom_of_compile_eq_error {fault : ProgramFault} (h : p.compile = .error fault) :
    compileFrom 0 p = .error fault := by
  rw [compile] at h
  cases hsteps : compileFrom 0 p with
  | error other =>
      rw [hsteps] at h
      cases h
      rfl
  | ok steps =>
      rw [hsteps] at h
      cases h

theorem compile_eq_ok (h : p.compile = .ok P) :
    compileFrom 0 p = .ok P.steps ∧ P.summary = summarize p := by
  obtain ⟨steps, hsteps, h⟩ := bind_eq_ok h
  cases h
  exact ⟨hsteps, rfl⟩

/-- A concatenation is at fault where its first part is. -/
theorem compile_append_of_error {fault : ProgramFault} (hp : p.compile = .error fault) :
    (p ++ q).compile = .error fault := by
  rw [compile, compileFrom_append, compileFrom_of_compile_eq_error hp]
  rfl

/-- What stands behind transforms is compiled as if it stood alone. -/
theorem compileFrom_behind (p q : Program) : compileFrom (0 + p.length) q =
    (compileFrom 0 q).mapError (ProgramFault.shift p.length) := by
  rw [Nat.zero_add]
  exact compileFrom_add p.length 0 q

/-- A concatenation whose first part compiles is at fault where its second part is. -/
theorem compile_append_of_ok_of_error (hp : p.compile = .ok P) {fault : ProgramFault}
    (hq : q.compile = .error fault) : (p ++ q).compile = .error (fault.shift p.length) := by
  rw [compile, compileFrom_append, (compile_eq_ok hp).1, compileFrom_behind,
    compileFrom_of_compile_eq_error hq]
  rfl

/-- A concatenation whose parts compile has the steps of both. -/
theorem compile_append (hp : p.compile = .ok P) {Q : CompiledProgram} (hq : q.compile = .ok Q) :
    (p ++ q).compile = .ok ⟨P.steps ++ Q.steps, summarize (p ++ q)⟩ := by
  rw [compile, compileFrom_append, (compile_eq_ok hp).1, compileFrom_behind, (compile_eq_ok hq).1]
  rfl

/-- The result of a program is named after it, unless it has no transforms. -/
theorem name_apply (h : p.compile = .ok P) (base : Table) :
    (P.apply base).name = if p = [] then base.name else s!"{base.name} | {summarize p}" := by
  rw [CompiledProgram.name_apply, (compile_eq_ok h).2]
  simp only [summarize_eq_empty_iff]

end

end Program

/-- Running a concatenation of steps is running its parts one after the other. -/
theorem Step.runAll_append (steps later : List Step) (t : Table) :
    runAll (steps ++ later) t = runAll later (runAll steps t) :=
  List.foldl_append

/-- What steps make of a table does not depend on its name. -/
theorem Step.runAll_congr (steps : List Step) {t u : Table} (hheaders : t.headers = u.headers)
    (hrows : t.rows = u.rows) : (runAll steps t).headers = (runAll steps u).headers ∧
      (runAll steps t).rows = (runAll steps u).rows := by
  rw [runAll_eq, runAll_eq, hheaders, hrows]
  exact ⟨rfl, rfl⟩

/-- Running the steps of two programs at once turns a table into what the second program turns the
result of the first into, but for its name. -/
theorem CompiledProgram.contents_apply_append (P Q : CompiledProgram) (summary : String)
    (base : Table) :
    (apply ⟨P.steps ++ Q.steps, summary⟩ base).headers = (Q.apply (P.apply base)).headers ∧
      (apply ⟨P.steps ++ Q.steps, summary⟩ base).rows = (Q.apply (P.apply base)).rows := by
  have hrun := Step.runAll_congr Q.steps (headers_apply P base) (rows_apply P base)
  constructor
  · rw [headers_apply, headers_apply, hrun.1, Step.runAll_append]
  · rw [rows_apply, rows_apply, hrun.2, Step.runAll_append]

/-- **Programs compose.** A concatenation is at fault where its first part is, or else where its
second part is, behind the transforms of the first. If both compile it does, and turns each table
into the headers and rows that the parts, one after the other, turn it into; the names differ in
what stands between the summaries. The place of a fault is that of the first transform that fails,
and its fault is the reported one. -/
theorem Program.compile_concatenation :
    (∀ p q : Program, match p.compile, q.compile with
      | .error fault, _ => (p ++ q).compile = .error fault
      | .ok _, .error fault => (p ++ q).compile = .error (fault.shift p.length)
      | .ok P, .ok Q => ∃ C : CompiledProgram, (p ++ q).compile = .ok C ∧ ∀ base : Table,
          (C.apply base).headers = (Q.apply (P.apply base)).headers ∧
          (C.apply base).rows = (Q.apply (P.apply base)).rows ∧
          (p ≠ [] → q ≠ [] →
            (C.apply base).name = s!"{base.name} | {summarize p} + {summarize q}" ∧
            (Q.apply (P.apply base)).name =
              s!"{base.name} | {summarize p} | {summarize q}")) ∧
    (∀ p : Program, match p.compile with
      | .error fault => ∃ (before after : Program) (t : Transform), p = before ++ t :: after ∧
          fault.index = before.length ∧ t.Fails fault.source ∧
          ∀ u ∈ before, ∀ other : Fault, ¬ u.Fails other
      | .ok P => (∀ t ∈ p, ∀ fault : Fault, ¬ t.Fails fault) ∧ ∀ base : Table,
          (P.apply base).name =
            if p = [] then base.name else s!"{base.name} | {summarize p}") ∧
    ∀ t : Transform, t.label ≠ "" := by
  refine ⟨fun p q => ?_, fun p => ?_, Transform.label_ne⟩
  · cases hp : p.compile with
    | error fault => exact compile_append_of_error hp
    | ok P =>
        cases hq : q.compile with
        | error fault => exact compile_append_of_ok_of_error hp hq
        | ok Q =>
            have hboth := compile_append hp hq
            refine ⟨_, hboth, fun base => ?_⟩
            obtain ⟨hheaders, hrows⟩ := CompiledProgram.contents_apply_append P Q _ base
            refine ⟨hheaders, hrows, fun hpne hqne => ⟨?_, ?_⟩⟩
            · rw [name_apply hboth, if_neg (List.append_ne_nil_of_left_ne_nil hpne q),
                summarize_append hpne hqne]
              simp only [ToString.toString, String.append_assoc]
            · rw [name_apply hq, if_neg hqne, name_apply hp, if_neg hpne]
              simp only [ToString.toString, String.append_assoc]
  · cases hp : p.compile with
    | error fault =>
        obtain ⟨before, after, t, rfl, hindex, hfails, hbefore⟩ :=
          compileFrom_eq_error (compileFrom_of_compile_eq_error hp)
        exact ⟨before, after, t, rfl, hindex.trans (Nat.zero_add _), hfails, hbefore⟩
    | ok P => exact ⟨not_fails_of_compileFrom (compile_eq_ok hp).1, name_apply hp⟩

/-- Two programs that compile, and one whose second transform fails. -/
def chainSample : Program × Program × Program :=
  ([.keepWhere "a > 1"], [.compute "b" "2 * a"], [.average ["a", "b"] "m", .compute "c" "a * "])

theorem Program.compile_concatenation_chainSample :
    (chainSample.1 ≠ [] ∧ chainSample.2.1 ≠ [] ∧ ∃ P Q C : CompiledProgram,
      chainSample.1.compile = .ok P ∧ chainSample.2.1.compile = .ok Q ∧
      (chainSample.1 ++ chainSample.2.1).compile = .ok C ∧ ∀ base : Table,
        (C.apply base).rows = (Q.apply (P.apply base)).rows ∧
        (C.apply base).name = base.name ++ " | " ++ "Where: a > 1" ++ " + " ++ "b = 2 * a" ∧
        (Q.apply (P.apply base)).name =
          base.name ++ " | " ++ "Where: a > 1" ++ " | " ++ "b = 2 * a") ∧
    ∃ fault : ProgramFault, chainSample.2.2.compile = .error fault ∧ fault.index = 1 ∧
      (chainSample.1 ++ chainSample.2.2).compile = .error ⟨2, fault.source⟩ := by
  have hp : chainSample.1.compile.toOption.isSome = true := by decide +kernel
  cases hP : chainSample.1.compile with
  | error fault =>
      rw [hP] at hp
      cases hp
  | ok P =>
      constructor
      · have hq : chainSample.2.1.compile.toOption.isSome = true := by decide +kernel
        cases hQ : chainSample.2.1.compile with
        | error fault =>
            rw [hQ] at hq
            cases hq
        | ok Q =>
            have hboth := compile_concatenation.1 chainSample.1 chainSample.2.1
            rw [hP, hQ] at hboth
            obtain ⟨C, hC, happly⟩ := hboth
            refine ⟨nofun, nofun, P, Q, C, rfl, rfl, hC, fun base => ?_⟩
            obtain ⟨-, hrows, hname⟩ := happly base
            have hfirst : summarize chainSample.1 = "Where: a > 1" := by decide +kernel
            have hsecond : summarize chainSample.2.1 = "b = 2 * a" := by decide +kernel
            rw [hfirst, hsecond] at hname
            exact ⟨hrows, hname nofun nofun⟩
      · have hr : (match chainSample.2.2.compile with
            | .ok _ => none
            | .error fault => some fault.index) = some 1 := by
          decide +kernel
        cases hR : chainSample.2.2.compile with
        | ok R =>
            rw [hR] at hr
            cases hr
        | error fault =>
            rw [hR] at hr
            have hindex : fault.index = 1 := Option.some.inj hr
            have hboth := compile_concatenation.1 chainSample.1 chainSample.2.2
            rw [hP, hR] at hboth
            have hshift : fault.shift chainSample.1.length = ⟨2, fault.source⟩ := by
              rw [ProgramFault.shift, hindex]
              rfl
            exact ⟨fault, rfl, hindex, hboth.trans (congrArg Except.error hshift)⟩

end Tabular
