import Tabular.Proofs.Condition.Literals
import Tabular.Proofs.Filter.Cache
import Tabular.Proofs.Formula.Printing

set_option autoImplicit false

/-! # Comparing what is compiled

Filters are compared by their conditions and their texts, formulas by their steps, their texts and
their dialects, and numbers in them as doubles. Since all their numbers are what numerals write, this
decides whether the texts are the same (`beq_iff_same_text`). The patterns that a filter keeps are
not compared, and need not be: they change nothing about what the filter accepts.
-/

namespace Tabular

/-! ## Formulas -/

namespace Formula

/-- The steps of a compiled formula can be written. -/
theorem isWritable_of_compile {text : String} {d : Dialect} {f : Formula}
    (h : compile text d = .ok f) : ∀ step ∈ f.steps, step.IsWritable := by
  obtain ⟨tokens, a, htokens, ha, hsteps⟩ := exists_derives_of_compile h
  rw [hsteps]
  exact isWritable_of_derives ha (isSound_of_scan (Token.scan_of_ofText htokens))

/-- Comparing steps that can be written decides whether they are the same. -/
theorem Step.beq_iff_eq_of_isWritable {s t : Step} (hs : s.IsWritable) (ht : t.IsWritable) :
    (s == t) = true ↔ s = t := by
  cases s with
  | number v =>
      cases t with
      | number w =>
          show (v == w) = true ↔ _
          rw [IsNumeral.beq_iff_eq hs ht, number.injEq]
      | _ => exact iff_of_false nofun nofun
  | column name =>
      cases t with
      | column name' =>
          show (name == name') = true ↔ _
          rw [beq_iff_eq, column.injEq]
      | _ => exact iff_of_false nofun nofun
  | operator o =>
      cases t with
      | operator o' =>
          show (o == o') = true ↔ _
          rw [beq_iff_eq, operator.injEq]
      | _ => exact iff_of_false nofun nofun
  | function f =>
      cases t with
      | function f' =>
          show (f == f') = true ↔ _
          rw [beq_iff_eq, function.injEq]
      | _ => exact iff_of_false nofun nofun

/-- The same of sequences of steps. -/
theorem beq_iff_eq_of_isWritable {as bs : List Step} (ha : ∀ step ∈ as, step.IsWritable)
    (hb : ∀ step ∈ bs, step.IsWritable) : (as == bs) = true ↔ as = bs := by
  induction as generalizing bs with
  | nil =>
      cases bs with
      | nil => exact iff_of_true rfl rfl
      | cons b bs => exact iff_of_false nofun nofun
  | cons a as ih =>
      cases bs with
      | nil => exact iff_of_false nofun nofun
      | cons b bs =>
          obtain ⟨ha, has⟩ := List.forall_mem_cons.mp ha
          obtain ⟨hb, hbs⟩ := List.forall_mem_cons.mp hb
          rw [List.cons_beq_cons, Bool.and_eq_true, Step.beq_iff_eq_of_isWritable ha hb, ih has hbs,
            List.cons.injEq]

section

variable {s t : String} {d e : Dialect} {f g : Formula} (hf : compile s d = .ok f)
  (hg : compile t e = .ok g)
include hf

/-- A compiled formula keeps its text and its dialect. -/
theorem source_of_compile : f.source = s ∧ f.dialect = d := by
  obtain ⟨tokens, -, h⟩ := bind_eq_ok hf
  obtain ⟨steps, -, h⟩ := bind_eq_ok h
  cases h
  exact ⟨rfl, rfl⟩

include hg

/-- Compiled formulas are equal when their texts and their dialects are. -/
theorem beq_iff_same_text : (f == g) = true ↔ s = t ∧ d = e := by
  obtain ⟨hsource, hdialect⟩ := source_of_compile hf
  obtain ⟨hsource', hdialect'⟩ := source_of_compile hg
  have hbeq : (f == g) = (f.steps == g.steps && (f.source == g.source && f.dialect == g.dialect)) := by
    cases f
    cases g
    rfl
  rw [hbeq, Bool.and_eq_true, Bool.and_eq_true, hsource, hsource', hdialect, hdialect',
    beq_iff_eq (a := s), beq_iff_eq (a := d)]
  constructor
  · exact fun h => h.2
  · rintro ⟨rfl, rfl⟩
    obtain rfl := Except.ok.inj (hf.symm.trans hg)
    have hwritable := isWritable_of_compile hf
    exact ⟨(beq_iff_eq_of_isWritable hwritable hwritable).mpr rfl, rfl, rfl⟩

end

end Formula

/-! ## Filters -/

namespace Filter

section

variable {s t : String} {F G : Filter} (hF : compile s = .ok F) (hG : compile t = .ok G)
include hF

theorem hasNumerals_of_compile : F.condition.HasNumerals :=
  Condition.isNumeral_of_ofText (ofText_of_compile hF)

theorem source_of_compile : F.source = s := by
  obtain ⟨c, -, rfl⟩ := compile_eq_ok hF
  rfl

include hG

/-- Compiled filters are equal when their texts are. -/
theorem beq_iff_same_text : (F == G) = true ↔ s = t := by
  show (F.condition == G.condition && F.source == G.source) = true ↔ s = t
  rw [Bool.and_eq_true, source_of_compile hF, source_of_compile hG, beq_iff_eq (a := s)]
  constructor
  · exact fun h => h.2
  · rintro rfl
    obtain rfl := Except.ok.inj (hF.symm.trans hG)
    have hnumerals := hasNumerals_of_compile hF
    exact ⟨(Condition.beq_iff_eq_of_numbers hnumerals hnumerals).mpr rfl, rfl⟩

/-- Filters with equal conditions accept the same rows, with the patterns of any pattern texts. -/
theorem accepts_of_beq (h : (F.condition == G.condition) = true) (source : String)
    (keys : List PatternKey) (look : Lookup) :
    (Filter.mk F.condition source (PatternCache.ofKeys keys)).accepts look = G.accepts look := by
  have hsame : F.condition = G.condition :=
    (Condition.beq_iff_eq_of_numbers (hasNumerals_of_compile hF) (hasNumerals_of_compile hG)).mp h
  obtain ⟨c, -, rfl⟩ := compile_eq_ok hG
  rw [accepts, accepts, hsame, PatternCache.matched_ofKeys_eq_empty,
    PatternCache.matched_ofKeys_eq_empty]

end

end Filter

/-- **What is compiled is equal when its text is**, and then to itself, since all its numbers are
finite and have no minus sign. What it computes depends on its condition or its steps only: on no
row does it matter from which text they come, or which patterns have been compiled with it. -/
theorem compiled_eq_iff_same_text :
    (∀ (s t : String) (F G : Filter), Filter.compile s = .ok F → Filter.compile t = .ok G →
      ((F == G) = true ↔ s = t) ∧
      (∀ v ∈ F.condition.numbers, v.isFinite = true ∧ hasMinus v = false) ∧
      ((F.condition == G.condition) = true → ∀ look : Lookup, F.accepts look = G.accepts look ∧
        ∀ (source : String) (keys : List PatternKey),
          (Filter.mk F.condition source (PatternCache.ofKeys keys)).accepts look =
            G.accepts look)) ∧
    ∀ (s t : String) (d e : Formula.Dialect) (f g : Formula),
      Formula.compile s d = .ok f → Formula.compile t e = .ok g →
        ((f == g) = true ↔ s = t ∧ d = e) ∧
        (∀ v : Float, .number v ∈ f.steps → v.isFinite = true ∧ hasMinus v = false) ∧
        ((f.steps == g.steps) = true → ∀ look : Lookup, f.value look = g.value look) := by
  refine ⟨fun s t F G hF hG => ?_, fun s t d e f g hf hg => ?_⟩
  · refine ⟨Filter.beq_iff_same_text hF hG, Filter.hasNumerals_of_compile hF, fun h look => ?_⟩
    have hany := Filter.accepts_of_beq hF hG h
    refine ⟨?_, fun source keys => hany source keys look⟩
    obtain ⟨c, -, rfl⟩ := Filter.compile_eq_ok hF
    exact hany _ _ look
  · have hwritable := Formula.isWritable_of_compile hf
    refine ⟨Formula.beq_iff_same_text hf hg, fun v hv => hwritable _ hv, fun h look => ?_⟩
    have hsame : f.steps = g.steps :=
      (Formula.beq_iff_eq_of_isWritable hwritable (Formula.isWritable_of_compile hg)).mp h
    rw [Formula.value, Formula.value, hsame]

/-- A condition and a formula, each written in two ways. -/
def respelledSample : (String × String) × String × String :=
  (("A = 100 OR TRUE", "((A)=1e2) or 1"), "-A ^ 2", "0-(A^2.0)")

theorem compiled_eq_iff_same_text_respelledSample :
    (∃ F G : Filter, Filter.compile respelledSample.1.1 = .ok F ∧
      Filter.compile respelledSample.1.2 = .ok G ∧ (F == F) = true ∧ (F == G) = false ∧
      (F.condition == G.condition) = true ∧ ∀ look : Lookup, F.accepts look = G.accepts look) ∧
    ∃ f g : Formula, Formula.compile respelledSample.2.1 .extended = .ok f ∧
      Formula.compile respelledSample.2.2 .arithmetic = .ok g ∧ (f == f) = true ∧
      (f == g) = false ∧ (f.steps == g.steps) = true ∧
      ∀ look : Lookup, f.value look = g.value look := by
  constructor
  · have hsame : (match Filter.compile respelledSample.1.1, Filter.compile respelledSample.1.2 with
        | .ok F, .ok G => F.condition == G.condition
        | _, _ => false) = true := by
      decide +kernel
    split at hsame
    · next F G hF hG =>
        obtain ⟨hequal, -, -⟩ := compiled_eq_iff_same_text.1 _ _ F F hF hF
        obtain ⟨hdiffer, -, haccepts⟩ := compiled_eq_iff_same_text.1 _ _ F G hF hG
        refine ⟨F, G, hF, hG, hequal.mpr rfl, ?_, hsame, fun look => (haccepts hsame look).1⟩
        exact Bool.eq_false_iff.mpr fun h => absurd (hdiffer.mp h) (by decide)
    · cases hsame
  · have hsame : (match Formula.compile respelledSample.2.1 .extended,
          Formula.compile respelledSample.2.2 .arithmetic with
        | .ok f, .ok g => f.steps == g.steps
        | _, _ => false) = true := by
      decide +kernel
    split at hsame
    · next f g hf hg =>
        obtain ⟨hequal, -, -⟩ := compiled_eq_iff_same_text.2 _ _ _ _ f f hf hf
        obtain ⟨hdiffer, -, hvalue⟩ := compiled_eq_iff_same_text.2 _ _ _ _ f g hf hg
        refine ⟨f, g, hf, hg, hequal.mpr ⟨rfl, rfl⟩, ?_, hsame, hvalue hsame⟩
        exact Bool.eq_false_iff.mpr fun h => absurd (hdiffer.mp h).1 (by decide)
    · cases hsame

end Tabular
