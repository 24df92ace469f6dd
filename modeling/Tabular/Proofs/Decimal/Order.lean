import Tabular.Proofs.Decimal.Packing

set_option autoImplicit false

/-! # The order of doubles

Comparing two doubles the other way round gives the other order (`compare_swap_unpacked`), and two
finite doubles can always be compared (`exists_compare_unpacked`). So every two finite doubles stand
in one order, and the order decides which of `<`, `≤` and `==` hold between them, either way round.
-/

namespace Tabular

open Float.Model (UnpackedFloat)

/-! ## Decoded doubles -/

/-- Finite numbers of one sign are compared by their exponents first. -/
theorem compare_then_swap (e e' : ℤ) (m m' : ℕ) :
    (compare e' e).then (compare m' m) = ((compare e e').then (compare m m')).swap := by
  rw [Ordering.swap_then, ← Std.OrientedCmp.eq_swap, ← Std.OrientedCmp.eq_swap]

/-- **Compared the other way round**, decoded doubles stand in the other order. -/
theorem compare_swap_unpacked (u w : UnpackedFloat) :
    w.compare u = (u.compare w).map Ordering.swap := by
  cases u with
  | notANumber => cases w <;> rfl
  | infinity s =>
      cases w with
      | notANumber => cases s <;> rfl
      | zero t => cases s <;> rfl
      | infinity t | finite t => cases s <;> cases t <;> rfl
  | zero s =>
      cases w with
      | notANumber | zero t => rfl
      | infinity t | finite t => cases t <;> rfl
  | finite s m e hm =>
      cases w with
      | notANumber | zero t => cases s <;> rfl
      | infinity t => cases s <;> cases t <;> rfl
      | finite t m' e' hm' =>
          have hthen := congrArg some (compare_then_swap e e' m m')
          cases s <;> cases t
          case positive.positive => exact hthen
          case negative.negative => exact congrArg (Option.map Ordering.swap) hthen
          all_goals rfl

/-- Finite decoded doubles can be compared. -/
theorem exists_compare_unpacked {u w : UnpackedFloat} (hu : u.isFinite = true)
    (hw : w.isFinite = true) : ∃ o, u.compare w = some o := by
  cases u with
  | notANumber | infinity s => cases hu
  | zero s =>
      cases w with
      | notANumber | infinity t => cases hw
      | zero t => exact ⟨_, rfl⟩
      | finite t => cases t <;> exact ⟨_, rfl⟩
  | finite s =>
      cases w with
      | notANumber | infinity t => cases hw
      | zero t => cases s <;> exact ⟨_, rfl⟩
      | finite t => cases s <;> cases t <;> exact ⟨_, rfl⟩

/-! ## Doubles -/

/-- Two doubles stand in an **order** when their decoded forms do. -/
def InOrder (v w : Float) (o : Ordering) : Prop :=
  v.toModel.unpack.compare w.toModel.unpack = some o

/-- Finite doubles stand in some order. -/
theorem exists_inOrder {v w : Float} (hv : v.isFinite = true) (hw : w.isFinite = true) :
    ∃ o, InOrder v w o :=
  exists_compare_unpacked hv hw

namespace InOrder

variable {v w : Float} {o : Ordering} (h : InOrder v w o)
include h

theorem swap : InOrder w v o.swap := by
  rw [InOrder, compare_swap_unpacked, h]
  rfl

theorem beq_eq : (v == w) = o.isEq := by
  show (v.toModel.unpack.compare w.toModel.unpack == some .eq) = o.isEq
  rw [h]
  cases o <;> rfl

theorem lt_eq : decide (v < w) = o.isLT := by
  have hlt : (v.toModel.unpack.compare w.toModel.unpack == some .lt) = o.isLT := by
    rw [h]
    cases o <;> rfl
  exact Bool.decide_eq_true.trans (Bool.decide_eq_true.trans hlt)

theorem le_eq : decide (v ≤ w) = o.isLE := by
  have hle : (v.toModel.unpack.compare w.toModel.unpack).any (·.isLE) = o.isLE := by
    rw [h]
    rfl
  exact Bool.decide_eq_true.trans (Bool.decide_eq_true.trans hle)

end InOrder

end Tabular
