import Tabular.Proofs.Condition.Printing
import Tabular.Proofs.Decimal.Readback
import Tabular.Style

set_option autoImplicit false

/-! # What the languages read of a cell

A number and the text that shows it are different cells, and so are a date and the text of its
milliseconds. But whatever reads them converts them first: to a text, to a number or to a scalar, and
on each of these ways the two give the same (`Cell.Alike.toText`, `Cell.Alike.number?`,
`Cell.Alike.ofCell`), since the texts of numbers read back. A condition reads its columns as
scalars only (`Condition.value_congr`) and a formula as numbers only (`Formula.value_congr`). So
neither can tell two such rows apart.
-/

namespace Tabular

/-! ## Alike cells -/

namespace Cell

/-- A number or date that a text **shows**. Infinite numbers and not-a-number are left out, as their
texts are not read as numbers. Dates have 64 bits. -/
inductive Shows : Cell → Cell → Prop
  | number {v : Float} (hfinite : v.isFinite = true) : Shows (.text (showNumber v)) (.number v)
  | date {ms : Int} (hlower : -2 ^ 63 ≤ ms) (hupper : ms < 2 ^ 63) :
    Shows (.text (showInteger ms)) (.date ms)

/-- Two cells are **alike** when they are equal or one is a text that shows the other. The two zeros
are not equal: their texts differ. -/
def Alike (x y : Cell) : Prop := x = y ∨ Shows x y ∨ Shows y x

theorem Alike.refl (x : Cell) : x.Alike x := .inl rfl

/-- What does not tell a text from what it shows does not tell alike cells apart. -/
theorem Alike.map_eq {α : Type} {f : Cell → α} {x y : Cell} (h : x.Alike y)
    (hshows : ∀ s t, Shows s t → f s = f t) : f x = f y := by
  rcases h with rfl | h | h
  · rfl
  · exact hshows x y h
  · exact (hshows y x h).symm

/-- Alike cells have the same text. -/
theorem Alike.toText {x y : Cell} (h : x.Alike y) : x.toText = y.toText := by
  refine h.map_eq fun s t hst => ?_
  cases hst with
  | number => rfl
  | date => rfl

/-- Alike cells have the same numeric view. -/
theorem Alike.number? {x y : Cell} (h : x.Alike y) : x.number? = y.number? := by
  refine h.map_eq fun s t hst => ?_
  cases hst with
  | number hfinite => exact parseNumber_showNumber hfinite
  | date hlower hupper => exact parseNumber_showInteger hlower hupper

/-- Alike cells are the same scalar. -/
theorem Alike.ofCell {x y : Cell} (h : x.Alike y) :
    Scalar.ofCell (some x) = Scalar.ofCell (some y) := by
  refine h.map_eq (f := fun x => Scalar.ofCell (some x)) fun s t hst => ?_
  cases hst with
  | number hfinite =>
      simp only [Scalar.ofCell, Cell.number?, parseNumber_showNumber hfinite, hfinite, if_true]
  | date hlower hupper =>
      simp only [Scalar.ofCell, Cell.number?, parseNumber_showInteger hlower hupper, Cell.toText]

end Cell

/-! ## Alike lookups -/

/-- Two lookups are **alike** when they have the same columns, with alike cells. -/
def Lookup.Alike (look look' : Lookup) : Prop :=
  ∀ column, Option.Rel Cell.Alike (look column) (look' column)

namespace Lookup.Alike

variable {look look' : Lookup} (h : look.Alike look')
include h

/-- What does not tell alike cells apart does not tell alike lookups apart. -/
theorem map_eq {α : Type} (f : Option Cell → α) (column : String)
    (hcell : ∀ {x y : Cell}, x.Alike y → f (some x) = f (some y)) :
    f (look column) = f (look' column) := by
  have hrel := h column
  generalize look column = x at hrel ⊢
  generalize look' column = y at hrel ⊢
  cases hrel with
  | none => rfl
  | some hxy => exact hcell hxy

theorem ofCell (column : String) :
    Scalar.ofCell (look column) = Scalar.ofCell (look' column) :=
  h.map_eq Scalar.ofCell column Cell.Alike.ofCell

theorem number? (column : String) :
    (look column).bind Cell.number? = (look' column).bind Cell.number? :=
  h.map_eq (·.bind Cell.number?) column Cell.Alike.number?

theorem toText (column : String) :
    (look column).elim "" Cell.toText = (look' column).elim "" Cell.toText :=
  h.map_eq (·.elim "" Cell.toText) column Cell.Alike.toText

end Lookup.Alike

/-! ## Conditions -/

namespace Condition

/-- **A condition reads its columns as scalars**, and nothing else of a row. -/
theorem value_congr {matched : PatternKey → String → Bool} {look look' : Lookup} (c : Condition)
    (h : ∀ name ∈ c.columns, Scalar.ofCell (look name) = Scalar.ofCell (look' name)) :
    c.value matched look = c.value matched look' := by
  induction c with
  | or p q hp hq | and p q hp hq | compare _ p q hp hq | like _ _ p q hp hq
  | matching _ p q hp hq =>
      simp only [columns, List.mem_append] at h
      simp only [value, hp fun name hname => h name (.inl hname),
        hq fun name hname => h name (.inr hname)]
  | not p hp => simp only [value, hp h]
  | between negated target low high htarget hlow hhigh =>
      simp only [columns, List.mem_append] at h
      simp only [value, htarget fun name hname => h name (.inl hname),
        hlow fun name hname => h name (.inr (.inl hname)),
        hhigh fun name hname => h name (.inr (.inr hname))]
  | column name => exact h name List.mem_cons_self
  | number v => rfl
  | text s => rfl

end Condition

/-- A filter does not tell alike rows apart. -/
theorem Filter.accepts_alike (f : Filter) {look look' : Lookup} (h : look.Alike look') :
    f.accepts look = f.accepts look' := by
  rw [accepts, accepts, f.condition.value_congr fun name _ => h.ofCell name]

/-! ## Formulas -/

namespace Formula

/-- **A formula reads its columns as numbers**, and nothing else of a row. -/
theorem evaluate_congr {steps : List Step} {look look' : Lookup}
    (h : ∀ name, .column name ∈ steps → numericValue (look name) = numericValue (look' name)) :
    evaluate steps look = evaluate steps look' := by
  have hrun : ∀ stack : List Float, steps.foldlM (fun stack step => step.run look stack) stack =
      steps.foldlM (fun stack step => step.run look' stack) stack := by
    induction steps with
    | nil => exact fun stack => rfl
    | cons step steps ih =>
        intro stack
        have hstep : step.run look stack = step.run look' stack := by
          have hresult : ∀ arguments, step.result look arguments = step.result look' arguments := by
            intro arguments
            cases step with
            | column name => exact h name List.mem_cons_self
            | number v => rfl
            | operator o => rcases arguments with _ | ⟨a, _ | ⟨b, _ | _⟩⟩ <;> rfl
            | function f => rfl
          rw [Step.run, Step.run, hresult]
        simp only [List.foldlM_cons, hstep,
          ih fun name hname => h name (List.mem_cons_of_mem _ hname)]
  rw [evaluate, evaluate, hrun]

/-- A formula does not tell alike rows apart. -/
theorem value_alike (f : Formula) {look look' : Lookup} (h : look.Alike look') :
    f.value look = f.value look' := by
  refine evaluate_congr fun name _ => ?_
  rw [numericValue, numericValue, h.number?]

end Formula

/-- Neither do styles. -/
theorem Styles.matchingRules_alike (styles : Styles) {look look' : Lookup}
    (h : look.Alike look') : styles.matchingRules look = styles.matchingRules look' := by
  have hholds : ∀ formula, holds formula look = holds formula look' := by
    intro formula
    rw [holds, holds, formula.value_alike h]
  simp only [matchingRules, hholds]

end Tabular
