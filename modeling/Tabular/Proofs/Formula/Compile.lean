import Tabular.Preview
import Tabular.Proofs.Formula.Blaming
import Tabular.Proofs.Formula.Reading
import Tabular.Proofs.Formula.Unambiguous
import Tabular.Proofs.Formula.Value

set_option autoImplicit false

/-! # Compiling and evaluating formulas

What the yard makes of tokens is what the grammar says: it succeeds on the phrases of level 0 and
on nothing else, and then writes the postfix order of the one derivation tree
(`stepsOfTokens_spec`). A compiled formula therefore always evaluates, and to the value of that
tree; the check of the depth at the end of the reading never fails (`compile_spec`).
-/

namespace Tabular.Formula

/-! ## Faults have places -/

/-- A result **tells the place** of a fault when it is none, or one with a place. -/
def TellsPlace {α : Type} (r : Except Fault α) : Prop :=
  ∀ fault : Fault, r = .error fault → fault.offset ≠ none

section

variable {α β : Type}

theorem tellsPlace_ok (x : α) : TellsPlace (.ok x) := by
  intro fault h
  cases h

theorem TellsPlace.bind {r : Except Fault α} {f : α → Except Fault β} (hr : TellsPlace r)
    (hf : ∀ x, r = .ok x → TellsPlace (f x)) : TellsPlace (r >>= f) := by
  cases r with
  | ok x => exact hf x rfl
  | error fault =>
      intro _ h
      cases h
      exact hr fault rfl

end

/-! ## From tokens to steps -/

open Yard

variable {d : Dialect} {tokens : List Token} {a : Tree}

/-- The yard writes the postfix order of a phrase. -/
theorem stepsOfTokens_of_derives (h : Derives d 0 tokens a) (length : Nat) :
    stepsOfTokens d tokens length = .ok a.steps := by
  obtain ⟨W, written, hrun, hW, hflush⟩ := absorbs_of_derives h [] [] (settled_nil 0)
  -- the run that absorbs the phrase is the one that ends complete
  obtain ⟨z, hz, hcomplete⟩ := accepts_start_iff.mpr ⟨a, h⟩
  obtain rfl : (⟨written, W ++ [], .operator⟩ : Yard) = z := by
    have hsome := hrun.symm.trans hz
    injection hsome
  have hsteps : (flush (W ++ []) written).reverse = a.steps := by
    rw [List.append_nil, hflush, List.append_nil, List.reverse_reverse]
  have hfinish := finish_of_complete hcomplete length
  simp only [hsteps, isBalanced_steps h, if_true] at hfinish
  rw [run] at hz
  rw [stepsOfTokens, hz]
  exact hfinish

/-- A yard that is fed no phrase blames one of the tokens or the end. -/
theorem isAt_of_not_derives {place : Nat → Prop} {length : Nat}
    (h : ¬ ∃ a : Tree, Derives d 0 tokens a) (htokens : ∀ t ∈ tokens, place t.offset)
    (hlength : place length) :
    ∃ fault : Fault, stepsOfTokens d tokens length = .error fault ∧ fault.IsAt place := by
  have hmeets := meets_run d remembers_start htokens
  cases hrun : run d start tokens with
  | error fault =>
      rw [hrun] at hmeets
      rw [run] at hrun
      refine ⟨fault, ?_, hmeets⟩
      rw [stepsOfTokens, hrun]
      rfl
  | ok z =>
      rw [hrun] at hmeets
      have hnot : ¬ z.Complete := fun hcomplete => h (accepts_start_iff.mp ⟨z, hrun, hcomplete⟩)
      obtain ⟨cause, offset, hfinish⟩ := finish_of_not_complete hnot length
      rw [run] at hrun
      refine ⟨.placed cause offset, ?_, isAt_of_finish hmeets hlength hfinish (by rintro ⟨⟩)⟩
      rw [stepsOfTokens, hrun]
      exact hfinish

/-- A yard that is fed no phrase puts the fault at a place. -/
theorem stepsOfTokens_of_not_derives (h : ¬ ∃ a : Tree, Derives d 0 tokens a) (length : Nat) :
    ∃ fault : Fault, stepsOfTokens d tokens length = .error fault ∧ fault.offset ≠ none := by
  have hblamed : ∃ fault : Fault, stepsOfTokens d tokens length = .error fault ∧
      fault.IsAt fun _ => True := isAt_of_not_derives h (fun _ _ => trivial) trivial
  obtain ⟨fault, hfault, hplace⟩ := hblamed
  exact ⟨fault, hfault, hplace.offset_ne⟩

/-- Tokens that give steps form a phrase, and the steps are its postfix order. -/
theorem exists_derives_of_ok {length : Nat} {steps : List Step}
    (h : stepsOfTokens d tokens length = .ok steps) :
    ∃ a : Tree, Derives d 0 tokens a ∧ steps = a.steps := by
  by_cases hphrase : ∃ a : Tree, Derives d 0 tokens a
  · obtain ⟨a, ha⟩ := hphrase
    rw [stepsOfTokens_of_derives ha length] at h
    cases h
    exact ⟨a, ha, rfl⟩
  · obtain ⟨fault, hfault, -⟩ := stepsOfTokens_of_not_derives hphrase length
    rw [hfault] at h
    cases h

/-- Reading the tokens of a formula never fails at the check of the depth. -/
theorem tellsPlace_stepsOfTokens (d : Dialect) (tokens : List Token) (length : Nat) :
    TellsPlace (stepsOfTokens d tokens length) := by
  by_cases h : ∃ a : Tree, Derives d 0 tokens a
  · obtain ⟨a, ha⟩ := h
    rw [stepsOfTokens_of_derives ha length]
    exact tellsPlace_ok _
  · obtain ⟨fault, hfault, hplace⟩ := stepsOfTokens_of_not_derives h length
    intro other hother
    rw [hfault] at hother
    cases hother
    exact hplace

/-- Tokens that form no phrase are blamed at the place of one of them, or at the end. -/
theorem isAt_of_stepsOfTokens {place : Nat → Prop} {length : Nat} {fault : Fault}
    (htokens : ∀ t ∈ tokens, place t.offset) (hlength : place length)
    (h : stepsOfTokens d tokens length = .error fault) : fault.IsAt place := by
  by_cases hphrase : ∃ a : Tree, Derives d 0 tokens a
  · obtain ⟨a, ha⟩ := hphrase
    rw [stepsOfTokens_of_derives ha length] at h
    cases h
  · obtain ⟨other, hother, hplace⟩ := isAt_of_not_derives hphrase htokens hlength
    obtain rfl := Except.error.inj (h.symm.trans hother)
    exact hplace

/-! ## From texts to values -/

theorem Token.tellsPlace_ofText (text : List Char) : TellsPlace (Token.ofText text) :=
  fun _ h => (Token.isAt_of_ofText h).offset_ne

/-- A text compiles when its tokens form a phrase, and then to the postfix order of its tree. -/
theorem exists_derives_of_compile {text : String} {formula : Formula}
    (h : compile text d = .ok formula) : ∃ (tokens : List Token) (a : Tree),
      Token.ofText text.toList = .ok tokens ∧ Derives d 0 tokens a ∧ formula.steps = a.steps := by
  obtain ⟨tokens, htokens, h⟩ := bind_eq_ok h
  obtain ⟨steps, hsteps, h⟩ := bind_eq_ok h
  cases h
  obtain ⟨a, ha, rfl⟩ := exists_derives_of_ok hsteps
  exact ⟨tokens, a, htokens, ha, rfl⟩

/-- **A text that is no formula is blamed at one of its places.** -/
theorem isAt_of_compile {text : String} {fault : Fault} (h : compile text d = .error fault) :
    fault.IsAt (PlaceToBlame text.toList) := by
  have hmeets : Meets (fun _ => True) (Fault.IsAt (PlaceToBlame text.toList)) (compile text d) := by
    refine (meets_self fun _ => Token.isAt_of_ofText).bind fun tokens htokens => ?_
    have hplaces : ∀ t ∈ tokens, PlaceToBlame text.toList t.offset := fun t ht =>
      .inl (placeIn_of_mem_scan (Token.scan_of_ofText htokens) t ht)
    have hend : PlaceToBlame text.toList (byteLength text.toList) := .inl (placeIn_byteLength _)
    exact (meets_self fun _ => isAt_of_stepsOfTokens hplaces hend).bind fun _ _ => trivial
  rw [h] at hmeets
  exact hmeets

/-- A compiled formula always has a value. -/
theorem exists_value_of_compile {text : String} {formula : Formula}
    (h : compile text d = .ok formula) (look : Lookup) :
    ∃ v : Float, formula.value look = .ok v := by
  obtain ⟨tokens, a, -, ha, hsteps⟩ := exists_derives_of_compile h
  exact ⟨a.value look, by rw [Formula.value, hsteps, evaluate_steps ha look]⟩

/-- A preview shows a fault exactly when the text does not compile, and then the same. -/
theorem formulaValue_eq_error_iff (text : String) (look : Lookup) (fault : Fault) :
    Preview.formulaValue text look = .error fault ↔ compile text .extended = .error fault := by
  unfold Preview.formulaValue
  cases hcompile : compile text .extended with
  | error other =>
      constructor <;> (intro h; cases h; rfl)
  | ok formula =>
      obtain ⟨v, hv⟩ := exists_value_of_compile hcompile look
      simp only [bind, Except.bind, hv]
      constructor <;> intro h <;> cases h

/-- **Compiled formulas evaluate.** Evaluating a compiled formula on any row succeeds, with the
value of the derivation tree of its tokens. Reading never fails at the check of the depth, so no
text is at fault as malformed without a place; and a preview shows a fault exactly when the text
does not compile. -/
theorem compile_spec (text : String) (d : Dialect) (look : Lookup) :
    (match compile text d with
      | .ok formula => ∃ (tokens : List Token) (a : Tree), Token.ofText text.toList = .ok tokens ∧
          Derives d 0 tokens a ∧ formula.value look = .ok (a.value look)
      | .error fault => fault ≠ ⟨.malformed, none⟩) ∧
    (∀ (tokens : List Token) (length : Nat),
      stepsOfTokens d tokens length ≠ .error ⟨.malformed, none⟩) ∧
    ∀ fault : Fault,
      Preview.formulaValue text look = .error fault ↔ compile text .extended = .error fault := by
  refine ⟨?_, ?_, formulaValue_eq_error_iff text look⟩
  · cases hcompile : compile text d with
    | ok formula =>
        obtain ⟨tokens, a, htokens, ha, hsteps⟩ := exists_derives_of_compile hcompile
        exact ⟨tokens, a, htokens, ha, by rw [Formula.value, hsteps, evaluate_steps ha look]⟩
    | error fault =>
        have hplace : TellsPlace (compile text d) := by
          unfold compile
          refine (Token.tellsPlace_ofText text.toList).bind fun tokens _ => ?_
          refine (tellsPlace_stepsOfTokens d tokens _).bind fun steps _ => ?_
          exact tellsPlace_ok _
        rintro rfl
        exact hplace _ hcompile rfl
  · intro tokens length h
    exact tellsPlace_stepsOfTokens d tokens length _ h rfl

end Tabular.Formula
