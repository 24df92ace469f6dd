import Mathlib
import Tabular.Proofs.Decimal.Numeral

set_option autoImplicit false

/-! # Numerals have no minus sign

The value of a numeral is rounded from a fraction without sign, and rounding keeps signs. So no
numeral writes a negative number or the zero with a minus sign (`hasMinus_numeralValue`): a sign in
front of a numeral is always an operator. The argument follows the decoded form of a double, in
which the sign stands apart, and the one bit that holds it.
-/

namespace Tabular

open Float.Model (UnpackedFloat Format)
open Float.Model.UnpackedFloat (Sign)

/-! ## The sign of a double -/

/-- A decoded double is **unsigned** when its sign is not minus. Not-a-number has no sign. -/
def IsUnsigned : UnpackedFloat → Prop
  | .infinity s | .zero s | .finite s _ _ _ => s = .positive
  | .notANumber => True

/-- The sign that is packed into a double is the one that is read off it. -/
theorem unpackSign_pack {u : UnpackedFloat} (h : IsUnsigned u) :
    UnpackedFloat.unpackSign (UnpackedFloat.pack .binary64 u) = 0#1 := by
  cases u with
  | notANumber => exact UnpackedFloat.unpackSign_packComponents ..
  | infinity s =>
      obtain rfl : s = .positive := h
      exact UnpackedFloat.unpackSign_packComponents ..
  | zero s =>
      obtain rfl : s = .positive := h
      exact UnpackedFloat.unpackSign_packComponents ..
  | finite s m e hm =>
      obtain rfl : s = .positive := h
      rw [UnpackedFloat.pack]
      dsimp only
      split
      · exact UnpackedFloat.unpackSign_packComponents ..
      · split <;> exact UnpackedFloat.unpackSign_packComponents ..

theorem isUnsigned_unpack {b : BitVec Format.binary64.numBits}
    (h : UnpackedFloat.unpackSign b = 0#1) : IsUnsigned (UnpackedFloat.unpack .binary64 b) := by
  have hsign : Sign.ofBitVec (UnpackedFloat.unpackSign b) = .positive := by
    rw [h]
    rfl
  unfold UnpackedFloat.unpack
  dsimp only
  split
  · split
    · exact hsign
    · trivial
  · split
    · split <;> exact hsign
    · exact hsign

/-- The bit that holds the sign is the last one. -/
theorem hasMinus_of_unpackSign {v : Float}
    (h : @UnpackedFloat.unpackSign .binary64 v.toModel.toBits.toBitVec = 0#1) :
    hasMinus v = false := by
  have hbit : v.toBits.toNat.testBit 63 = false := by
    have hsign : v.toModel.toBits.toBitVec.getLsbD 63 = false := by
      have hlow := congrArg (fun b => b.getLsbD 0) h
      simp only [UnpackedFloat.unpackSign, BitVec.getLsbD_cast, BitVec.getLsbD_extractLsb] at hlow
      exact hlow
    exact hsign
  have hshift : v.toBits >>> 63 = 0 := by
    have hlt := v.toBits.toNat_lt
    rw [Nat.testBit_eq_decide_div_mod_eq, decide_eq_false_iff_not] at hbit
    rw [← UInt64.toNat_inj, UInt64.toNat_shiftRight, Nat.shiftRight_eq_div_pow]
    show v.toBits.toNat / 2 ^ 63 = 0
    omega
  rw [hasMinus, hshift]
  rfl

theorem isUnsigned_unpack_pack {u : UnpackedFloat} (h : IsUnsigned u) :
    IsUnsigned (Float.Model.pack u).unpack :=
  isUnsigned_unpack (unpackSign_pack h)

theorem hasMinus_pack {u : UnpackedFloat} (h : IsUnsigned u) :
    hasMinus (.ofModel (.pack u)) = false :=
  hasMinus_of_unpackSign (unpackSign_pack h)

/-! ## Arithmetic keeps numbers unsigned -/

theorem isUnsigned_roundWithAccuracy (spec : Format) (m : Nat) (e : Int)
    (accuracy : UnpackedFloat.Accuracy) :
    IsUnsigned (.roundWithAccuracy spec .positive m e accuracy) := by
  unfold UnpackedFloat.roundWithAccuracy
  dsimp only
  split <;> rfl

/-- A product is an infinity, a zero or a rounded number whose sign is the product of the signs. -/
theorem IsUnsigned.mul {u w : UnpackedFloat} (hu : IsUnsigned u) (hw : IsUnsigned w)
    (spec : Format) : IsUnsigned (.mul spec u w) := by
  cases u <;> cases w <;> cases hu <;> cases hw <;>
    first | rfl | trivial | exact isUnsigned_roundWithAccuracy ..

/-- A quotient is so with the quotient of the signs. -/
theorem IsUnsigned.div {u w : UnpackedFloat} (hu : IsUnsigned u) (hw : IsUnsigned w)
    (spec : Format) : IsUnsigned (.div spec u w) := by
  cases u <;> cases w <;> cases hu <;> cases hw <;>
    first | rfl | trivial | exact isUnsigned_roundWithAccuracy ..

theorem isUnsigned_ofNat (spec : Format) (n : Nat) : IsUnsigned (.ofNat spec n) := by
  unfold UnpackedFloat.ofNat UnpackedFloat.ofInt UnpackedFloat.normalize
  cases n with
  | zero => rfl
  | succ n => exact isUnsigned_roundWithAccuracy ..

theorem isUnsigned_ofScientific (spec : Format) (m : Nat) (e : Int) :
    IsUnsigned (.ofScientific spec m e) := by
  unfold UnpackedFloat.ofScientific
  split
  · rfl
  · split
    · rfl
    · split
      · rfl
      · split
        · exact IsUnsigned.mul (u := .finite ..) (w := .finite ..) rfl rfl spec
        · exact IsUnsigned.div (u := .finite ..) (w := .finite ..) rfl rfl spec

/-- The powers of ten that doubles hold exactly are unsigned. -/
theorem isUnsigned_power {e : Nat} (h : e < Float.exactlyRepresentablePowersOfTen.size) :
    IsUnsigned Float.exactlyRepresentablePowersOfTen[e].toModel.unpack := by
  have hall : ∀ v ∈ Float.exactlyRepresentablePowersOfTen.toList,
      @UnpackedFloat.unpackSign .binary64 v.toModel.toBits.toBitVec = 0#1 := by
    decide
  exact isUnsigned_unpack (hall _ (Array.getElem_mem_toList h))

/-! ## Numerals -/

/-- A decimal number without sign has a double without minus sign. -/
theorem hasMinus_ofScientific (m : Nat) (s : Bool) (e : Nat) :
    hasMinus (Float.ofScientific m s e) = false := by
  unfold Float.ofScientific
  dsimp only
  split
  · have hm := isUnsigned_unpack_pack (isUnsigned_ofNat .binary64 m.toUInt64.toNat)
    split
    · exact hasMinus_pack (hm.div (isUnsigned_power _) .binary64)
    · exact hasMinus_pack (hm.mul (isUnsigned_power _) .binary64)
  · exact hasMinus_pack (isUnsigned_ofScientific .binary64 m _)

theorem hasMinus_scaled (n : Nat) (e : Int) (width : Nat) :
    hasMinus (scaled n e width) = false := by
  unfold scaled
  split <;> exact hasMinus_ofScientific ..

/-- **No numeral writes a number with a minus sign.** -/
theorem hasMinus_numeralValue (m : Mantissa) (x : Option Exponent) :
    hasMinus (numeralValue m x) = false :=
  hasMinus_scaled ..

/-- A scanned numeral is finite and has no minus sign. -/
theorem unsigned_of_scanNumeral {cs numeral : List Char} {v : Float}
    (h : scanNumeral cs = .ok (v, numeral)) : v.isFinite = true ∧ hasMinus v = false := by
  obtain ⟨-, -, -, hfinite, rfl, -⟩ := scanNumeral_eq_ok.mp h
  exact ⟨hfinite, hasMinus_numeralValue _ _⟩

end Tabular
