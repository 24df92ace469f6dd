import Mathlib.Data.List.TakeWhile
import Tabular.Text.Lowercase

set_option autoImplicit false

/-! # Lower case in context

The lower-case form of a text goes part by part (`lowerAfter_append`), but the form of a part
depends on what stands around it: a capital sigma is final in one context and not in another. Only
that can make a difference. A part that keeps its sigmas in a larger text has the same lower-case
form there as alone (`lowerAfter_part`).
-/

namespace Tabular

/-- Whether a capital sigma is **final** between the characters before it, in reverse order, and
those after it. -/
def isFinalSigma (before after : List Char) : Bool := meetsCased before && !meetsCased after

/-- The lower-case form of a part of a text, given the characters before it, in reverse order, and
those after it. -/
def lowerBetween (before after : List Char) : List Char → List Char
  | [] => []
  | c :: rest =>
    (if c = 'Σ' then [if isFinalSigma before (rest ++ after) then 'ς' else 'σ'] else lowerChar c) ++
      lowerBetween (c :: before) after rest

/-- A text is the part with nothing after it. -/
theorem lowerAfter_eq_lowerBetween (before cs : List Char) :
    lowerAfter before cs = lowerBetween before [] cs := by
  induction cs generalizing before with
  | nil => rfl
  | cons c rest ih =>
      rw [lowerAfter, lowerBetween, ih, List.append_nil]
      rfl

/-- The lower-case form of a text is that of its first part followed by that of the rest. -/
theorem lowerAfter_append (before as bs : List Char) :
    lowerAfter before (as ++ bs) =
      lowerBetween before bs as ++ lowerAfter (as.reverse ++ before) bs := by
  induction as generalizing before with
  | nil => rfl
  | cons c rest ih =>
      rw [List.cons_append, lowerAfter, lowerBetween, ih, List.reverse_cons, List.append_assoc,
        List.append_assoc]
      rfl

/-- **Only the sigmas depend on the context.** -/
theorem lowerBetween_congr {before before' after after' cs : List Char}
    (h : ∀ p q : List Char, cs = p ++ 'Σ' :: q →
      isFinalSigma (p.reverse ++ before) (q ++ after) =
        isFinalSigma (p.reverse ++ before') (q ++ after')) :
    lowerBetween before after cs = lowerBetween before' after' cs := by
  induction cs generalizing before before' with
  | nil => rfl
  | cons c rest ih =>
      have hrest : lowerBetween (c :: before) after rest =
          lowerBetween (c :: before') after' rest := by
        refine ih fun p q hsplit => ?_
        have hlater := h (c :: p) q (by rw [hsplit, List.cons_append])
        rwa [List.reverse_cons, List.append_assoc, List.append_assoc] at hlater
      rw [lowerBetween, lowerBetween, hrest]
      split
      · next hsigma =>
          rw [show isFinalSigma before (rest ++ after) = isFinalSigma before' (rest ++ after') from
            h [] rest (by rw [hsigma, List.nil_append])]
      · rfl

/-! ## Parts that keep their sigmas -/

/-- A text **keeps its sigmas** between two others when each of its capital sigmas is final there
exactly when it is final in the text alone. -/
def KeepsSigmas (before cs after : List Char) : Prop :=
  ∀ p q : List Char, cs = p ++ 'Σ' :: q →
    isFinalSigma (p.reverse ++ before.reverse) (q ++ after) = isFinalSigma p.reverse q

/-- A part that keeps its sigmas is lower-cased as it is alone. -/
theorem lowerAfter_part {before cs after : List Char} (h : KeepsSigmas before cs after) :
    lowerAfter [] cs <:+: lowerAfter [] (before ++ (cs ++ after)) := by
  have halone : lowerBetween before.reverse after cs = lowerAfter [] cs := by
    rw [lowerAfter_eq_lowerBetween]
    refine lowerBetween_congr fun p q hsplit => ?_
    rw [h p q hsplit, List.append_nil, List.append_nil]
  refine ⟨lowerBetween [] (cs ++ after) before, lowerAfter (cs.reverse ++ before.reverse) after, ?_⟩
  rw [lowerAfter_append, List.append_nil, lowerAfter_append, halone, List.append_assoc]

/-- What the case-ignorable characters in front do not hide decides whether a cased character is
met, whatever follows. -/
theorem meetsCased_append {cs : List Char} (h : ∃ c ∈ cs, Property.caseIgnorable.contains c = false)
    (rest : List Char) : meetsCased (cs ++ rest) = meetsCased cs := by
  obtain ⟨c, hc, hplain⟩ := h
  have hne : cs.dropWhile Property.caseIgnorable.contains ≠ [] := by
    intro hnil
    rw [List.dropWhile_eq_nil_iff] at hnil
    rw [hnil c hc] at hplain
    cases hplain
  obtain ⟨first, others, hfirst⟩ := List.exists_cons_of_ne_nil hne
  rw [meetsCased, meetsCased, List.dropWhile_append, hfirst]
  rfl

/-- A text keeps its sigmas everywhere when each of them has a character on both sides that is not
case-ignorable, and so in particular when it has none. -/
theorem keepsSigmas_of_inner {cs : List Char}
    (h : ∀ p q : List Char, cs = p ++ 'Σ' :: q →
      (∃ c ∈ p, Property.caseIgnorable.contains c = false) ∧
        ∃ c ∈ q, Property.caseIgnorable.contains c = false)
    (before after : List Char) : KeepsSigmas before cs after := by
  intro p q hsplit
  obtain ⟨⟨c, hc, hplain⟩, hq⟩ := h p q hsplit
  rw [isFinalSigma, isFinalSigma, meetsCased_append hq,
    meetsCased_append ⟨c, List.mem_reverse.mpr hc, hplain⟩]

end Tabular
