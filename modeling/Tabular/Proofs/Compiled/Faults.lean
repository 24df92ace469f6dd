import Tabular.Filter
import Tabular.Proofs.Condition.Blaming
import Tabular.Proofs.Formula.Compile

set_option autoImplicit false

/-! # Faults have places

Whatever a text is at fault for, the fault has a place in it: the start of a character that is no
blank, or the end of the text. Only a blank formula is blamed at its start, where a blank may be.
-/

namespace Tabular

/-- **Every fault of a text has a place in the text.** It is none of evaluation, and its place is no
farther than the end of the text, between two characters, and not in front of a blank unless the
text is a blank formula. -/
theorem isAt_of_compile_error :
    (∀ (text : String) (fault : Fault), Filter.compile text = .error fault →
      fault.IsAt fun o => o ≤ byteLength text.toList ∧ PlaceIn 0 text.toList o) ∧
    ∀ (text : String) (d : Formula.Dialect) (fault : Fault),
      Formula.compile text d = .error fault →
        fault.IsAt fun o => o ≤ byteLength text.toList ∧
          (PlaceIn 0 text.toList o ∨ o = 0 ∧ ∀ c ∈ text.toList, isBlank c = true) := by
  constructor
  · intro text fault h
    have hmeets : Meets (fun _ => True) (Fault.IsAt (PlaceIn 0 text.toList))
        (Filter.compile text) :=
      (meets_self fun _ => Condition.isAt_of_ofText).bind fun _ _ => trivial
    rw [h] at hmeets
    exact Fault.IsAt.mono hmeets fun o ho => ⟨ho.le_byteLength, ho⟩
  · intro text d fault h
    refine (Formula.isAt_of_compile h).mono fun o ho => ⟨?_, ho⟩
    rcases ho with hplace | ⟨rfl, -⟩
    · exact hplace.le_byteLength
    · exact Nat.zero_le _

/-- A condition with a parenthesis that is not closed at its end, which is the ninth byte. -/
def openConditionSample : String := "'é' = (A"

/-- A formula with a parenthesis that is not closed, behind seven bytes. -/
def openFormulaSample : String := "\x7bé\x7d + (1 "

theorem isAt_of_compile_error_openSample :
    (∃ fault : Fault, Filter.compile openConditionSample = .error fault ∧ fault.offset = some 9 ∧
      fault.IsAt fun o => o ≤ byteLength openConditionSample.toList ∧
        PlaceIn 0 openConditionSample.toList o) ∧
    ∃ fault : Fault, Formula.compile openFormulaSample .extended = .error fault ∧
      fault.offset = some 7 ∧
      fault.IsAt fun o => o ≤ byteLength openFormulaSample.toList ∧
        (PlaceIn 0 openFormulaSample.toList o ∨
          o = 0 ∧ ∀ c ∈ openFormulaSample.toList, isBlank c = true) := by
  constructor
  · have hoffset : (Filter.compile openConditionSample).map (fun _ => ()) =
        .error (.placed (.expectedClosing none) 9) := by
      decide +kernel
    cases hcompile : Filter.compile openConditionSample with
    | ok f =>
        rw [hcompile] at hoffset
        cases hoffset
    | error fault =>
        rw [hcompile] at hoffset
        obtain rfl := Except.error.inj hoffset
        exact ⟨_, rfl, rfl, isAt_of_compile_error.1 _ _ hcompile⟩
  · have hoffset : (Formula.compile openFormulaSample .extended).map (fun _ => ()) =
        .error (.placed .unmatchedOpening 7) := by
      decide +kernel
    cases hcompile : Formula.compile openFormulaSample .extended with
    | ok f =>
        rw [hcompile] at hoffset
        cases hoffset
    | error fault =>
        rw [hcompile] at hoffset
        obtain rfl := Except.error.inj hoffset
        exact ⟨_, rfl, rfl, isAt_of_compile_error.2 _ _ _ hcompile⟩

end Tabular
