import Mathlib.Data.List.Forall2
import Tabular.Proofs.Program.Composing
import Tabular.Proofs.Program.IgnoringCase

set_option autoImplicit false

/-! # Text tests agree with each other

A test for a different text keeps the rows that the test for an equal one drops, and a test for one
of several texts those that a test for one of them keeps. The texts of the last may also be given in
one, with commas between them and blanks around each (`Pads`): splitting at the commas and trimming
the parts gives them back, since no text that is its own trim loses anything but the blanks around it
(`options_of_padded`). The laws are those of programs with one transform (`textTests_agree`).
-/

namespace Tabular

/-! ## Parts between commas -/

/-- Splitting at commas is splitting a list at an element. -/
theorem splitAtCommas_eq_splitOn (cs : List Char) : splitAtCommas cs = cs.splitOn ',' := by
  induction cs with
  | nil => rfl
  | cons c rest ih =>
      rw [splitAtCommas, List.splitOn_eq_splitOnP, List.splitOnP_cons_eq_if_modifyHead,
        ← List.splitOn_eq_splitOnP, ← ih]
      by_cases hcomma : c = ','
      · rw [if_pos hcomma, if_pos (beq_iff_eq.mpr hcomma)]
      · rw [if_neg hcomma, if_neg (mt beq_iff_eq.mp hcomma)]
        cases hparts : splitAtCommas rest with
        | nil => exact absurd (ih.symm.trans hparts) (List.splitOn_ne_nil ',' rest)
        | cons part parts => rfl

/-- A text **pads** another when it has blanks before and after it, and nothing else. -/
def Pads (padded s : String) : Prop :=
  ∃ before after : List Char, (∀ c ∈ before ++ after, isBlank c = true) ∧
    padded.toList = before ++ (s.toList ++ after)

/-- Trimming leaves the same of a text with blanks around it as of the text alone. -/
theorem Pads.trim_eq {padded s : String} (h : Pads padded s) :
    trim padded.toList = trim s.toList := by
  obtain ⟨before, after, hblank, hpadded⟩ := h
  calc trim padded.toList
      = trim (before ++ (s.toList ++ after)) := congrArg trim hpadded
    _ = trim (s.toList ++ after) :=
        trim_blanks_append (fun c hc => hblank c (List.mem_append_left after hc)) _
    _ = trim s.toList :=
        trim_append_blanks (fun c hc => hblank c (List.mem_append_right before hc)) _

/-- Blanks around a text bring no comma into it. -/
theorem Pads.comma_not_mem {padded s : String} (h : Pads padded s) (hs : ',' ∉ s.toList) :
    ',' ∉ padded.toList := by
  obtain ⟨before, after, hblank, hpadded⟩ := h
  rw [hpadded, List.mem_append, List.mem_append]
  rintro (hmem | hmem | hmem)
  · exact absurd (hblank ',' (List.mem_append_left after hmem)) (by decide)
  · exact hs hmem
  · exact absurd (hblank ',' (List.mem_append_right before hmem)) (by decide)

/-- A text that can be **listed** between commas: it has none itself, and no blank at its ends. -/
def IsListable (s : String) : Prop := ',' ∉ s.toList ∧ trim s.toList = s.toList

section

variable {values padded : List String} (hpads : List.Forall₂ Pads padded values)
  (hvalues : ∀ s ∈ values, IsListable s)
include hpads hvalues

theorem comma_not_mem_of_pads : ∀ text ∈ padded, ',' ∉ text.toList := by
  induction hpads with
  | nil => exact List.forall_mem_nil _
  | cons hpad _ ih =>
      intro text htext
      rcases List.mem_cons.mp htext with rfl | htext
      · exact hpad.comma_not_mem (hvalues _ List.mem_cons_self).1
      · exact ih (fun s hs => hvalues s (List.mem_cons_of_mem _ hs)) text htext

theorem map_trim_of_pads :
    padded.map (fun text => String.ofList (trim text.toList)) = values := by
  induction hpads with
  | nil => rfl
  | cons hpad _ ih =>
      rw [List.map_cons, ih fun s hs => hvalues s (List.mem_cons_of_mem _ hs), hpad.trim_eq,
        (hvalues _ List.mem_cons_self).2, String.ofList_toList]

/-- **What is listed is given back.** Texts without commas and without blanks at their ends, padded
and joined by commas, are the texts that a test for one of several compares with. -/
theorem options_of_padded (hne : values ≠ []) :
    (TextValue.one (String.intercalate "," padded)).options = values := by
  have hcomma : ∀ part ∈ padded.map String.toList, ',' ∉ part :=
    List.forall_mem_map.mpr (comma_not_mem_of_pads hpads hvalues)
  have hparts : padded.map String.toList ≠ [] := by
    intro hnil
    rw [List.map_eq_nil_iff.mp hnil, List.forall₂_nil_left_iff] at hpads
    exact hne hpads
  have hsplit : splitAtCommas (String.intercalate "," padded).toList =
      padded.map String.toList := by
    rw [splitAtCommas_eq_splitOn, String.toList_intercalate]
    exact List.splitOn_intercalate ',' hcomma hparts
  calc (TextValue.one (String.intercalate "," padded)).options
      = (splitAtCommas (String.intercalate "," padded).toList).map
          (fun part => String.ofList (trim part)) := rfl
    _ = padded.map (fun text => String.ofList (trim text.toList)) := by
        rw [hsplit, List.map_map]
        rfl
    _ = values := map_trim_of_pads hpads hvalues

end

/-! ## Tests of one row -/

/-- Whether a row **passes** a text test of a column. -/
def passes (column : String) (test : TextTest) (value : TextValue) (caseSensitive : Bool)
    (row : Row) : Bool :=
  (TextMatcher.create test value caseSensitive).accepts (row.get? column)

section

variable (column : String) (caseSensitive : Bool) (row : Row)

theorem passes_unequal (value : TextValue) :
    passes column .unequal value caseSensitive row =
      !passes column .equal value caseSensitive row := by
  cases value <;> rfl

/-- Being one of several texts is being equal to one of them. -/
theorem passes_oneOf (value : TextValue) :
    passes column .oneOf value caseSensitive row =
      value.options.any fun s => passes column .equal (.one s) caseSensitive row := by
  rw [Bool.eq_iff_iff, passes, TextMatcher.accepts_create_oneOf, List.mem_map, List.any_eq_true]
  refine exists_congr fun s => and_congr_right fun _ => ?_
  rw [passes, TextMatcher.accepts_create_equal, beq_iff_eq]
  exact eq_comm

end

/-! ## Kept rows -/

/-- What a program with one transform, a text test of a column, **keeps** of a table: the headers
and the rows of the output. -/
def kept (t : Table) (column : String) (test : TextTest) (value : TextValue)
    (caseSensitive : Bool) : Option (List String × List Row) :=
  (Program.apply [.keepMatching column test value caseSensitive] t).toOption.map Table.contents

/-- The rows that pass are kept, in their order. -/
theorem kept_eq (t : Table) (column : String) (test : TextTest) (value : TextValue)
    (caseSensitive : Bool) :
    kept t column test value caseSensitive =
      some (t.headers, t.rows.filter (passes column test value caseSensitive)) := by
  rw [kept, Program.contents_apply]
  rfl

/-- **Text tests agree with each other**, on any table, for any column, and whether case counts or
not. A test keeps the rows that pass it. Those that differ from a value are the ones that are not
equal to it; those that are one of several texts are the ones that are equal to one of them; and
texts without commas and without blanks at their ends may be given in one, with commas between them
and any blanks around each. -/
theorem textTests_agree (t : Table) (column : String) (caseSensitive : Bool) :
    (∀ (test : TextTest) (value : TextValue), kept t column test value caseSensitive =
      some (t.headers, t.rows.filter (passes column test value caseSensitive))) ∧
    (∀ value : TextValue, kept t column .unequal value caseSensitive =
      some (t.headers, t.rows.filter fun row => !passes column .equal value caseSensitive row)) ∧
    (∀ values : List String, kept t column .oneOf (.many values) caseSensitive =
      some (t.headers, t.rows.filter fun row =>
        values.any fun s => passes column .equal (.one s) caseSensitive row)) ∧
    ∀ values padded : List String, values ≠ [] → (∀ s ∈ values, IsListable s) →
      List.Forall₂ Pads padded values →
        kept t column .oneOf (.one (String.intercalate "," padded)) caseSensitive =
          kept t column .oneOf (.many values) caseSensitive := by
  refine ⟨fun test value => kept_eq t column test value caseSensitive, fun value => ?_,
    fun values => ?_, ?_⟩
  · rw [kept_eq, funext fun row => passes_unequal column caseSensitive row value]
  · rw [kept_eq, funext fun row => passes_oneOf column caseSensitive row (.many values)]
    rfl
  · intro values padded hne hvalues hpads
    rw [kept_eq, kept_eq]
    congr 2
    refine List.filter_congr fun row _ => ?_
    rw [passes_oneOf, passes_oneOf, options_of_padded hpads hvalues hne]
    rfl

/-- Cities, of which one is not known. -/
def citySample : Table :=
  ⟨"cities", ["City"], [Row.ofPairs [("City", .text "BOSTON")], Row.ofPairs [("City", .text "Salem")],
    .empty]⟩

theorem textTests_agree_citySample :
    ["Boston", ""] ≠ [] ∧ (∀ s ∈ ["Boston", ""], IsListable s) ∧
      List.Forall₂ Pads ["\t Boston\n", " "] ["Boston", ""] ∧
      kept citySample "City" .oneOf (.one (String.intercalate "," ["\t Boston\n", " "])) false =
        kept citySample "City" .oneOf (.many ["Boston", ""]) false ∧
      (kept citySample "City" .oneOf (.many ["Boston", ""]) false).map (·.2.length) = some 2 := by
  have hvalues : ∀ s ∈ ["Boston", ""], IsListable s := by
    simp only [List.forall_mem_cons, IsListable]
    decide
  have hpads : List.Forall₂ Pads ["\t Boston\n", " "] ["Boston", ""] :=
    .cons ⟨['\t', ' '], ['\n'], List.all_eq_true.mp (by decide), by decide⟩
      (.cons ⟨[' '], [], List.all_eq_true.mp (by decide), by decide⟩ .nil)
  have hne : ["Boston", ""] ≠ [] := List.cons_ne_nil _ _
  exact ⟨hne, hvalues, hpads,
    (textTests_agree citySample "City" false).2.2.2 _ _ hne hvalues hpads, by decide +kernel⟩

end Tabular
