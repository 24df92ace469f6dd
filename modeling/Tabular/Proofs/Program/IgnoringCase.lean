import Tabular.Program.Step
import Tabular.Proofs.Text.Lowercase

set_option autoImplicit false

/-! # Ignoring case

A text test ignores case by lower-casing the text of the cell and its own value, each on its own.
What is equal stays equal then, so ignoring case only adds matches to tests for equality and for one
of several values. A value that a text contains need not be contained in lower case, since a capital
sigma at the end of the value is a final one and need not be final in the text
(`not_accepts_finalSigma`). It is contained where it keeps its sigmas (`accepts_ignoring_case`).
-/

namespace Tabular

/-! ## Texts in texts -/

/-- Characters occur together in others when these go on with them somewhere. -/
theorem hasInfix_iff {needle cs : List Char} : hasInfix needle cs = true ↔ needle <:+: cs := by
  induction cs with
  | nil => rw [hasInfix, List.isEmpty_iff, List.infix_nil]
  | cons c rest ih =>
      rw [hasInfix, Bool.or_eq_true, List.isPrefixOf_iff_prefix, ih, List.infix_cons_iff]

/-- A text **occurs settled** in another when it stands somewhere in it and keeps its sigmas there.
-/
def OccursSettled (needle cs : List Char) : Prop :=
  ∃ before after : List Char, cs = before ++ (needle ++ after) ∧ KeepsSigmas before needle after

/-- Whether each capital sigma of a text has a character on both sides that is not
case-ignorable. -/
def HasInnerSigmas (needle : List Char) : Prop :=
  ∀ p q : List Char, needle = p ++ 'Σ' :: q →
    (∃ c ∈ p, Property.caseIgnorable.contains c = false) ∧
      ∃ c ∈ q, Property.caseIgnorable.contains c = false

/-- Where a text with inner sigmas occurs, it occurs settled. -/
theorem HasInnerSigmas.occursSettled {needle cs : List Char} (h : HasInnerSigmas needle)
    (hpart : needle <:+: cs) : OccursSettled needle cs := by
  obtain ⟨before, after, rfl⟩ := hpart
  exact ⟨before, after, List.append_assoc before needle after, keepsSigmas_of_inner h before after⟩

/-! ## Prepared tests -/

/-- The text that a test other than for one of several compares with. -/
def TextValue.joined : TextValue → String
  | one s => s
  | many values => String.intercalate "," values

/-- The texts that a test for one of several compares with. -/
def TextValue.options : TextValue → List String
  | one s => (splitAtCommas s.toList).map fun part => String.ofList (trim part)
  | many values => values

/-- The text of a cell that may be absent. -/
def textOf (cell : Option Cell) : String := cell.elim "" Cell.toText

namespace TextMatcher

section

variable (value : TextValue) (caseSensitive : Bool) (cell : Option Cell)

/-- A test for equality compares prepared texts. -/
theorem accepts_create_equal :
    (create .equal value caseSensitive).accepts cell =
      (prepare caseSensitive (textOf cell) == prepare caseSensitive value.joined) := by
  cases value <;> rfl

/-- A test for a part looks for it in prepared texts. -/
theorem accepts_create_contains :
    (create .contains value caseSensitive).accepts cell = true ↔
      (prepare caseSensitive value.joined).toList <:+:
        (prepare caseSensitive (textOf cell)).toList := by
  rw [← hasInfix_iff]
  cases value <;> rfl

/-- A test for one of several looks for a prepared text among others. -/
theorem accepts_create_oneOf :
    (create .oneOf value caseSensitive).accepts cell = true ↔
      prepare caseSensitive (textOf cell) ∈ value.options.map (prepare caseSensitive) := by
  rw [← List.contains_iff_mem]
  cases value with
  | one s =>
      rw [TextValue.options, List.map_map]
      rfl
  | many values => rfl

end

/-- Where case counts, texts are compared as they stand. -/
theorem prepare_true (s : String) : prepare true s = s := rfl

theorem prepare_false (s : String) : prepare false s = lowercase s := rfl

variable {test : TextTest} {value : TextValue} {cell : Option Cell}

/-- A cell that passes a test, passes it too when case is ignored: for equality, for one of several,
and for a part that occurs settled in its text. -/
theorem accepts_false_of_true (htest : test ≠ .unequal)
    (h : (create test value true).accepts cell = true)
    (hsettled : test = .contains → OccursSettled value.joined.toList (textOf cell).toList) :
    (create test value false).accepts cell = true := by
  cases test with
  | equal =>
      rw [accepts_create_equal, beq_iff_eq] at h ⊢
      rw [prepare_true, prepare_true] at h
      rw [h]
  | unequal => exact absurd rfl htest
  | contains =>
      obtain ⟨before, after, hcs, hkeeps⟩ := hsettled rfl
      rw [accepts_create_contains, prepare_false, prepare_false, lowercase, lowercase,
        String.toList_ofList, String.toList_ofList, hcs]
      exact lowerAfter_part hkeeps
  | oneOf =>
      rw [accepts_create_oneOf] at h ⊢
      obtain ⟨s, hs, htext⟩ := List.mem_map.mp h
      rw [prepare_true, prepare_true] at htext
      exact List.mem_map.mpr ⟨s, hs, by rw [htext]⟩

end TextMatcher

/-! ## Kept rows -/

/-- What is kept by a test that accepts less is part of what is kept by one that accepts more. -/
theorem filter_sublist_filter {α : Type} {p q : α → Bool} {xs : List α}
    (h : ∀ x ∈ xs, p x = true → q x = true) : List.Sublist (xs.filter p) (xs.filter q) := by
  have hboth : xs.filter p = (xs.filter q).filter p := by
    rw [List.filter_filter]
    refine List.filter_congr fun x hx => ?_
    cases hp : p x with
    | false => rfl
    | true => rw [h x hx hp, Bool.and_self]
  rw [hboth]
  exact List.filter_sublist

open TextMatcher

/-- **Ignoring case only adds matches, final sigmas apart.** Take a test of a cell for equality, for
a part or for one of several values. A cell, present or not, that passes the test where case counts
passes it where case is ignored, provided that a part that is looked for keeps its sigmas at some
place where it occurs. So the rows kept where case counts are, in their order, among those kept
where case is ignored. A part whose capital sigmas stand between characters that are not
case-ignorable keeps them wherever it occurs, and so does one without any. -/
theorem accepts_ignoring_case {test : TextTest} (htest : test ≠ .unequal) (value : TextValue) :
    (∀ cell : Option Cell, (create test value true).accepts cell = true →
      (test = .contains → OccursSettled value.joined.toList (textOf cell).toList) →
        (create test value false).accepts cell = true) ∧
    (∀ (column : String) (t : Table),
      (∀ row ∈ t.rows, (create test value true).accepts (row.get? column) = true →
        test = .contains → OccursSettled value.joined.toList (textOf (row.get? column)).toList) →
      List.Sublist ((Step.keepMatching column (create test value true)).run t).rows
        ((Step.keepMatching column (create test value false)).run t).rows) ∧
    (HasInnerSigmas value.joined.toList → ∀ cell : Option Cell,
      (create .contains value true).accepts cell = true →
        OccursSettled value.joined.toList (textOf cell).toList) := by
  refine ⟨fun cell h hsettled => accepts_false_of_true htest h hsettled, ?_, ?_⟩
  · intro column t hsettled
    exact filter_sublist_filter fun row hrow h =>
      accepts_false_of_true htest h (hsettled row hrow h)
  · intro hinner cell h
    exact hinner.occursSettled ((accepts_create_contains value true cell).mp h)

/-- A capital sigma that is final neither in the value nor in the text. -/
def innerSample : Option Cell := some (.text "ΟΔΟΣ ΑΣΑ")

theorem accepts_ignoring_case_innerSample :
    (create .contains (.one "ΣΑ") true).accepts innerSample = true ∧
      OccursSettled "ΣΑ".toList (textOf innerSample).toList ∧
      (create .contains (.one "ΣΑ") false).accepts innerSample = true := by
  have htrue : (create .contains (.one "ΣΑ") true).accepts innerSample = true := by decide +kernel
  have hsettled : OccursSettled "ΣΑ".toList (textOf innerSample).toList := by
    refine ⟨"ΟΔΟΣ Α".toList, [], by decide +kernel, fun p q hsplit => ?_⟩
    -- the sigma of the value is its first character
    cases p with
    | nil =>
        obtain rfl : ['Α'] = q := (List.cons.inj hsplit).2
        decide +kernel
    | cons c p =>
        have hrest : ['Α'] = p ++ 'Σ' :: q := (List.cons.inj hsplit).2
        have hmem : 'Σ' ∈ ['Α'] := hrest ▸ List.mem_append_right p List.mem_cons_self
        exact absurd hmem (by decide)
  exact ⟨htrue, hsettled,
    (accepts_ignoring_case (by decide) (.one "ΣΑ")).1 innerSample htrue fun _ => hsettled⟩

/-- A text that contains a value, sigma and all, does not contain it where case is ignored: the
value alone ends in a final sigma, and the text goes on. -/
theorem not_accepts_finalSigma :
    (create .contains (.one "ΑΣ") true).accepts (some (.text "ΑΣΑ")) = true ∧
      (create .contains (.one "ΑΣ") false).accepts (some (.text "ΑΣΑ")) = false := by
  decide +kernel

end Tabular
