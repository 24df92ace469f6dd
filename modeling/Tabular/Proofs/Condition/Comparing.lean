import Tabular.Proofs.Condition.Balance
import Tabular.Proofs.Decimal.Order

set_option autoImplicit false

/-! # Comparisons

Two scalars are compared as numbers when both are finite numbers, and as texts otherwise; which of
the two it is does not depend on which scalar comes first. So every two scalars stand in one order,
and each relation admits some orders (`Relation.admits`): it holds when it admits the one in which
the scalars stand, and the other way round when it admits the swapped one (`exists_order`).

A range compares all three scalars in the same way. It says what its two comparisons say
(`isBetween_eq`) unless they are made in different ways, which happens when the scalar is a finite
number and one of the bounds is one while the other is not.
-/

namespace Tabular

/-! ## Relations and orders -/

/-- The number of a scalar is finite. -/
theorem isFinite_of_finite? {a : Scalar} {v : Float} (h : a.finite? = some v) :
    v.isFinite = true := by
  cases a with
  | text s => cases h
  | number w =>
      rw [Scalar.finite?] at h
      split at h
      · next hfinite =>
          cases h
          exact hfinite
      · cases h

namespace Relation

/-- Whether a relation **admits** an order. -/
def admits : Relation → Ordering → Bool
  | eq => Ordering.isEq
  | ne => Ordering.isNe
  | gt => Ordering.isGT
  | ge => Ordering.isGE
  | lt => Ordering.isLT
  | le => Ordering.isLE

/-- A relation between numbers that stand in an order holds when it admits the order. -/
theorem holdsNumber_eq_admits {v w : Float} {o : Ordering} (h : InOrder v w o) (r : Relation) :
    r.holdsNumber v w = r.admits o := by
  cases r with
  | eq => exact h.beq_eq
  | ne => exact (congrArg not h.beq_eq).trans (by cases o <;> rfl)
  | gt => exact h.swap.lt_eq.trans Ordering.isLT_swap
  | ge => exact h.swap.le_eq.trans Ordering.isLE_swap
  | lt => exact h.lt_eq
  | le => exact h.le_eq

/-- A relation between texts holds when it admits the order in which they stand. -/
theorem holdsText_eq_admits (r : Relation) (s t : String) :
    r.holdsText s t = r.admits (cmp s t) := by
  rcases lt_trichotomy s t with hlt | rfl | hgt
  · rw [(cmp_eq_lt_iff s t).mpr hlt]
    cases r <;> simp [holdsText, admits, hlt, hlt.ne, hlt.not_gt]
  · rw [cmp_self_eq_eq]
    cases r <;> simp [holdsText, admits]
  · rw [(cmp_eq_gt_iff s t).mpr hgt]
    cases r <;> simp [holdsText, admits, hgt, hgt.ne', hgt.not_gt]

/-! ## Relations between scalars -/

/-- Two finite numbers are compared as numbers. -/
theorem holds_of_finite {a b : Scalar} {v w : Float} (ha : a.finite? = some v)
    (hb : b.finite? = some w) (r : Relation) : r.holds a b = r.holdsNumber v w := by
  rw [holds, ha, hb]

/-- Scalars of which one is no finite number are compared as texts. -/
theorem holds_of_not_finite {a b : Scalar} (h : a.finite? = none ∨ b.finite? = none)
    (r : Relation) : r.holds a b = r.holdsText a.toText b.toText := by
  rcases h with ha | hb
  · rw [holds, ha]
  · rw [holds, hb]
    cases a.finite? <;> rfl

/-- **Every two scalars stand in an order.** It decides all relations between them, and its swap
decides them the other way round. -/
theorem exists_order (a b : Scalar) :
    ∃ o, (∀ r : Relation, r.holds a b = r.admits o) ∧
      ∀ r : Relation, r.holds b a = r.admits o.swap := by
  -- which of the two ways it is does not depend on which scalar comes first
  have astexts (h : a.finite? = none ∨ b.finite? = none) :
      ∃ o, (∀ r : Relation, r.holds a b = r.admits o) ∧
        ∀ r : Relation, r.holds b a = r.admits o.swap := by
    refine ⟨cmp a.toText b.toText, fun r => ?_, fun r => ?_⟩
    · rw [holds_of_not_finite h, holdsText_eq_admits]
    · rw [holds_of_not_finite h.symm, holdsText_eq_admits, cmp_swap]
  cases ha : a.finite? with
  | none => exact astexts (.inl ha)
  | some v =>
      cases hb : b.finite? with
      | none => exact astexts (.inr hb)
      | some w =>
          obtain ⟨o, ho⟩ := exists_inOrder (isFinite_of_finite? ha) (isFinite_of_finite? hb)
          refine ⟨o, fun r => ?_, fun r => ?_⟩
          · rw [holds_of_finite ha hb, holdsNumber_eq_admits ho]
          · rw [holds_of_finite hb ha, holdsNumber_eq_admits ho.swap]

end Relation

/-! ## Ranges -/

/-- Three finite numbers are compared as numbers. -/
theorem isBetween_of_finite {target low high : Scalar} {t l h : Float}
    (ht : target.finite? = some t) (hl : low.finite? = some l) (hh : high.finite? = some h) :
    isBetween target low high = (Relation.ge.holdsNumber t l && Relation.le.holdsNumber t h) := by
  rw [isBetween, ht, hl, hh]
  rfl

/-- Scalars of which one is no finite number are compared as texts. -/
theorem isBetween_of_not_finite {target low high : Scalar}
    (h : target.finite? = none ∨ low.finite? = none ∨ high.finite? = none) :
    isBetween target low high = (Relation.ge.holdsText target.toText low.toText &&
      Relation.le.holdsText target.toText high.toText) := by
  rcases h with ht | hl | hh
  · rw [isBetween, ht]
  · rw [isBetween, hl]
    cases target.finite? <;> rfl
  · rw [isBetween, hh]
    cases target.finite? <;> cases low.finite? <;> rfl

/-- **A range says what its two comparisons say**, unless the scalar is a finite number and one of
the bounds is one while the other is not. -/
theorem isBetween_eq {target low high : Scalar}
    (h : ¬ (target.finite?.isSome = true ∧ low.finite?.isSome ≠ high.finite?.isSome)) :
    isBetween target low high
      = (Relation.ge.holds target low && Relation.le.holds target high) := by
  cases ht : target.finite? with
  | none =>
      rw [isBetween_of_not_finite (.inl ht), Relation.holds_of_not_finite (.inl ht),
        Relation.holds_of_not_finite (.inl ht)]
  | some t =>
      cases hl : low.finite? with
      | none =>
          cases hh : high.finite? with
          | none =>
              rw [isBetween_of_not_finite (.inr (.inl hl)), Relation.holds_of_not_finite (.inr hl),
                Relation.holds_of_not_finite (.inr hh)]
          | some u => exact absurd ⟨by simp [ht], by simp [hl, hh]⟩ h
      | some l =>
          cases hh : high.finite? with
          | none => exact absurd ⟨by simp [ht], by simp [hl, hh]⟩ h
          | some u =>
              rw [isBetween_of_finite ht hl hh, Relation.holds_of_finite ht hl,
                Relation.holds_of_finite ht hh]

namespace Condition

variable (matched : PatternKey → String → Bool) (look : Lookup)

/-- Whether the value of a condition is a finite number. -/
def isNumeric (c : Condition) : Bool := (c.value matched look).finite?.isSome

/-- A comparison holds when its relation does. -/
theorem holds_compare (r : Relation) (a b : Condition) :
    (compare r a b).holds matched look
      = r.holds (a.value matched look) (b.value matched look) :=
  isTrue_ofBool _

/-- **Comparisons are a consistent order test**, whatever the values of the operands are. Of smaller,
equal and greater exactly one holds; smaller is greater the other way round; at least is not smaller,
at most is not greater, and unequal is not equal. And a range gives what its two comparisons give,
unless its operand is a finite number and exactly one of its bounds is. -/
theorem holds_compare_spec :
    (∀ a b : Condition,
      (∃! r : Relation, r ∈ [.lt, .eq, .gt] ∧ (compare r a b).holds matched look = true) ∧
      (compare .lt a b).holds matched look = (compare .gt b a).holds matched look ∧
      (compare .ge a b).holds matched look = !(compare .lt a b).holds matched look ∧
      (compare .le a b).holds matched look = !(compare .gt a b).holds matched look ∧
      (compare .ne a b).holds matched look = !(compare .eq a b).holds matched look) ∧
    ∀ x low high : Condition,
      ¬ (isNumeric matched look x = true ∧
        isNumeric matched look low ≠ isNumeric matched look high) →
      (between false x low high).value matched look
        = (and (compare .ge x low) (compare .le x high)).value matched look := by
  refine ⟨fun a b => ?_, fun x low high h => ?_⟩
  · obtain ⟨o, hab, hba⟩ := Relation.exists_order (a.value matched look) (b.value matched look)
    simp only [holds_compare, hab, hba]
    -- nothing but the order matters any more
    cases o <;> decide
  · have hcompared : (and (compare .ge x low) (compare .le x high)).value matched look
        = .ofBool ((compare .ge x low).holds matched look
          && (compare .le x high).holds matched look) := rfl
    rw [hcompared, holds_compare, holds_compare, value, isBetween_eq h, Bool.bne_false]

/-- A number between two numbers in the cells of a row, and two texts for its bounds. -/
theorem holds_compare_spec_sample :
    let look : Lookup := fun name => if name = "x" then some (.number 5) else none
    let matched : PatternKey → String → Bool := fun _ _ => false
    (¬ (isNumeric matched look (column "x") = true ∧
        isNumeric matched look (number 1) ≠ isNumeric matched look (number 10)) ∧
      (between false (column "x") (number 1) (number 10)).value matched look
        = (and (compare .ge (column "x") (number 1))
            (compare .le (column "x") (number 10))).value matched look) ∧
    (¬ (isNumeric matched look (column "x") = true ∧
        isNumeric matched look (text "4") ≠ isNumeric matched look (column "y")) ∧
      (between false (column "x") (text "4") (column "y")).value matched look
        = (and (compare .ge (column "x") (text "4"))
            (compare .le (column "x") (column "y"))).value matched look) := by
  intro look matched
  have hnumbers : ¬ (isNumeric matched look (column "x") = true ∧
      isNumeric matched look (number 1) ≠ isNumeric matched look (number 10)) := by
    decide +kernel
  have htexts : ¬ (isNumeric matched look (column "x") = true ∧
      isNumeric matched look (text "4") ≠ isNumeric matched look (column "y")) := by
    decide +kernel
  exact ⟨⟨hnumbers, (holds_compare_spec matched look).2 _ _ _ hnumbers⟩,
    htexts, (holds_compare_spec matched look).2 _ _ _ htexts⟩

/-- A range from a number to a text compares `5` with both as a text. Its comparison with the number
alone compares numbers. -/
example :
    isBetween (.number 5) (.number 10) (.text "a") = true ∧
      (Relation.ge.holds (.number 5) (.number 10)
        && Relation.le.holds (.number 5) (.text "a")) = false := by
  decide +kernel

end Condition

end Tabular
