import Tabular.Decimal.Numeral
import Tabular.Proofs.Decimal.Rounding

set_option autoImplicit false

/-! # The nearest double

The double nearest to an exact number is rounded from it once (`nearest`). Numerals are read with
powers of ten: as long as whole number and power are held exactly by doubles, one operation on
them is enough, and otherwise large integers are multiplied or divided. On either way the result is
the double nearest to the exact decimal (`ofScientific_eq_nearest`), and it stays the same when the
exponent of a numeral is cut off (`scaled_eq_nearest`). So what a numeral gives depends only on the
number that it writes.
-/

namespace Tabular

open Float.Model (UnpackedFloat Format totalExponent)
open Float.Model.UnpackedFloat (Sign ExtendedMantissa)

/-- The double nearest to a number that is not negative. -/
def nearest (x : ℚ) : Float := .ofModel (.pack (rounded x))

/-- **A positive double is the nearest one to the number that it holds.** -/
theorem nearest_of_unpack {v : Float} {m : Nat} {e : ℤ} {hm : 0 < m}
    (h : v.toModel.unpack = .finite .positive m e hm) : nearest ((m : ℚ) * 2 ^ e) = v := by
  have hcanonical : IsCanonical (.finite .positive m e hm) := h ▸ isCanonical_unpack v.toModel
  rw [nearest, rounded_canonical hcanonical, ← h, pack_unpack]

theorem nearest_zero : nearest 0 = 0 := by
  rw [nearest, rounded_zero]
  rfl

theorem isFinite_rounded (x : ℚ) : (rounded x).isFinite = true := by
  unfold rounded
  dsimp only
  split
  · rfl
  · split <;> rfl

/-- The double nearest to a number that is not too large is finite. -/
theorem isFinite_nearest {x : ℚ} (hx : 0 ≤ x) (hlt : x < 2 ^ (1023 : ℤ)) :
    (nearest x).isFinite = true := by
  show (Float.Model.pack (rounded x)).unpack.isFinite = true
  rw [(isCanonical_rounded hx hlt).unpack_pack, isFinite_rounded]

/-! ## Arithmetic -/

section

variable {m₁ m₂ : Nat} {e₁ e₂ : ℤ} (h₁ : 0 < m₁) (h₂ : 0 < m₂)

/-- **The product of two numbers is rounded**, if it has enough digits. -/
theorem mul_eq_rounded (hfull : 2 ^ 52 ≤ m₁ * m₂) :
    UnpackedFloat.mul .binary64 (.finite .positive m₁ e₁ h₁) (.finite .positive m₂ e₂ h₂) =
      rounded ((m₁ * 2 ^ e₁) * (m₂ * 2 ^ e₂)) := by
  have hvalue : (m₁ * 2 ^ e₁ : ℚ) * (m₂ * 2 ^ e₂) = ((m₁ * m₂ : ℕ) : ℚ) * 2 ^ (e₁ + e₂) := by
    rw [zpow_add₀ two_ne_zero]
    push_cast
    ring
  have hpos : 0 < m₁ * m₂ := Nat.mul_pos h₁ h₂
  rw [hvalue]
  refine roundWithAccuracy_eq_rounded (by positivity) ?_ ?_
  · rw [mul_div_cancel_right₀ _ (by positivity), truncated_natCast]
    rfl
  · have hlog : 52 ≤ (m₁ * m₂).log2 := (Nat.le_log2 hpos.ne').mpr hfull
    rw [exponentOf, log_mul_zpow hpos]
    omega

/-- The digits of a quotient of natural numbers. -/
theorem truncated_div (n : Nat) {d : Nat} (hd : 0 < d) :
    ExtendedMantissa.ofMantissaAndAccuracy (n / d) (UnpackedFloat.accuracyOfFraction (n % d) d) =
      truncated ((n : ℚ) / d) := by
  have hfloor : ⌊(n : ℚ) / d⌋₊ = n / d := Nat.floor_div_eq_div n d
  have hrest : (n : ℚ) / d - ((n / d : ℕ) : ℚ) = ((n % d : ℕ) : ℚ) / d := by
    have hparts : (n : ℚ) = d * ((n / d : ℕ) : ℚ) + ((n % d : ℕ) : ℚ) := by
      exact_mod_cast (Nat.div_add_mod n d).symm
    have hd' : (d : ℚ) ≠ 0 := by positivity
    field_simp
    linarith
  have hd' : (0 : ℚ) < d := by positivity
  -- the part behind the point is compared with one half without dividing
  have hzero : ((n % d : ℕ) : ℚ) / d = 0 ↔ n % d = 0 := by
    rw [div_eq_zero_iff, Nat.cast_eq_zero]
    exact or_iff_left hd'.ne'
  have hle : (1 / 2 : ℚ) ≤ ((n % d : ℕ) : ℚ) / d ↔ d ≤ 2 * (n % d) := by
    rw [le_div_iff₀ hd', ← Nat.cast_le (α := ℚ)]
    push_cast
    constructor <;> intro h <;> linarith
  have heq : ((n % d : ℕ) : ℚ) / d = 1 / 2 ↔ 2 * (n % d) = d := by
    rw [div_eq_iff hd'.ne', ← Nat.cast_inj (R := ℚ)]
    push_cast
    constructor <;> intro h <;> linarith
  unfold truncated UnpackedFloat.accuracyOfFraction
  rw [hfloor, hrest]
  simp only [ne_eq, hzero, hle, heq]
  by_cases hr : n % d = 0
  · have hlt : ¬ d ≤ 2 * (n % d) := by omega
    simp [hr, hd.ne', ExtendedMantissa.ofMantissaAndAccuracy]
  · rw [if_neg hr]
    rcases Nat.lt_trichotomy (2 * (n % d)) d with hlt | hmid | hgt
    · simp [compare_lt_iff_lt.mpr hlt, ExtendedMantissa.ofMantissaAndAccuracy, hr, hlt, hlt.ne]
    · simp [ExtendedMantissa.ofMantissaAndAccuracy, hmid]
    · simp [compare_gt_iff_gt.mpr hgt, ExtendedMantissa.ofMantissaAndAccuracy, hr, hgt.le, hgt.ne']

include h₁ h₂ in
/-- The leading digit of a quotient is at most one place behind where the leading digits of its two
parts put it. -/
theorem totalExponent_sub_le_log_div :
    totalExponent m₁ e₁ - totalExponent m₂ e₂ - 1 ≤
      Int.log 2 ((m₁ * 2 ^ e₁ : ℚ) / (m₂ * 2 ^ e₂)) := by
  have hlog : totalExponent m₁ e₁ - totalExponent m₂ e₂ - 1 =
      Int.log 2 ((m₁ : ℚ) * 2 ^ e₁) - (Int.log 2 ((m₂ : ℚ) * 2 ^ e₂) + 1) := by
    rw [log_mul_zpow h₁, log_mul_zpow h₂, totalExponent, totalExponent]
    omega
  have hlower := (le_log_iff (x := (m₁ : ℚ) * 2 ^ e₁) (by positivity) _).mp le_rfl
  have hupper := (log_lt_iff (x := (m₂ : ℚ) * 2 ^ e₂) (by positivity) _).mp (lt_add_one _)
  rw [hlog, le_log_iff (by positivity), zpow_sub₀ two_ne_zero]
  exact div_le_div₀ (by positivity) hlower (by positivity) hupper.le

/-- **The quotient of two numbers is rounded.** -/
theorem div_eq_rounded :
    UnpackedFloat.div .binary64 (.finite .positive m₁ e₁ h₁) (.finite .positive m₂ e₂ h₂) =
      rounded ((m₁ * 2 ^ e₁) / (m₂ * 2 ^ e₂)) := by
  have hx : (0 : ℚ) < (m₁ * 2 ^ e₁) / (m₂ * 2 ^ e₂) := by positivity
  have htotal : totalExponent m₁ e₁ - totalExponent m₂ e₂ - 1 ≤
      Int.log 2 ((m₁ * 2 ^ e₁ : ℚ) / (m₂ * 2 ^ e₂)) := totalExponent_sub_le_log_div h₁ h₂
  unfold UnpackedFloat.div UnpackedFloat.divCore
  dsimp only
  -- the exponent of the digits that are divided for
  generalize he : min (e₁ - e₂)
    (Format.binary64.targetExponent (totalExponent m₁ e₁ - totalExponent m₂ e₂)) = e
  rw [targetExponent_eq] at he
  obtain ⟨shift, hshift⟩ : ∃ shift : ℕ, e₁ - e₂ - e = shift :=
    ⟨(e₁ - e₂ - e).toNat, by omega⟩
  have hexponent : e ≤ exponentOf ((m₁ * 2 ^ e₁ : ℚ) / (m₂ * 2 ^ e₂)) := by
    unfold exponentOf
    omega
  have hpoint : (m₁ * 2 ^ e₁ : ℚ) / (m₂ * 2 ^ e₂) / 2 ^ e = ((m₁ <<< shift : ℕ) : ℚ) / m₂ := by
    have hsum : e₁ = e₂ + e + shift := by omega
    rw [Nat.shiftLeft_eq, hsum, zpow_add₀ two_ne_zero, zpow_add₀ two_ne_zero, zpow_natCast]
    push_cast
    field_simp
  refine roundWithAccuracy_eq_rounded hx ?_ hexponent
  rw [hshift, Int.toNat_natCast, truncated_div _ h₂, hpoint]

end

/-- A natural number is rounded. -/
theorem ofNat_eq_rounded (n : Nat) : UnpackedFloat.ofNat .binary64 n = rounded n := by
  rcases Nat.eq_zero_or_pos n with rfl | hn
  · rw [Nat.cast_zero, rounded_zero]
    rfl
  · have hvalue : (n : ℚ) * 2 ^ (0 : ℤ) = n := by rw [zpow_zero, mul_one]
    have htarget : Format.binary64.targetExponent (totalExponent n 0) = exponentOf n := by
      rw [targetExponent_eq, totalExponent, exponentOf, ← hvalue, log_mul_zpow hn]
      omega
    obtain ⟨shift, hshift⟩ : ∃ shift : ℕ, (0 - exponentOf (n : ℚ)).toNat = shift := ⟨_, rfl⟩
    have hpoint : (n : ℚ) / 2 ^ (0 - (shift : ℤ)) = ((n <<< shift : ℕ) : ℚ) := by
      rw [Nat.shiftLeft_eq, zero_sub, zpow_neg, zpow_natCast, div_inv_eq_mul]
      push_cast
      rfl
    have hround : UnpackedFloat.ofNat .binary64 n =
        UnpackedFloat.round .binary64 .positive n 0 := by
      unfold UnpackedFloat.ofNat UnpackedFloat.ofInt UnpackedFloat.normalize
      rw [compare_gt_iff_gt.mpr (Int.natCast_pos.mpr hn)]
      rfl
    rw [hround, UnpackedFloat.round, htarget, UnpackedFloat.decreaseExponent, hshift]
    refine roundWithAccuracy_eq_rounded (by positivity) ?_ (by omega)
    rw [hpoint, truncated_natCast]
    rfl

/-! ## Decimal numbers -/

theorem pack_congr {u w : UnpackedFloat}
    (h : UnpackedFloat.pack .binary64 u = UnpackedFloat.pack .binary64 w) :
    Float.Model.pack u = .pack w := by
  simp only [Float.Model.pack, h]

theorem two_zpow_le_ten_zpow {e : ℤ} (he : 0 ≤ e) : (2 : ℚ) ^ (3 * e) ≤ 10 ^ e := by
  rw [zpow_mul]
  exact zpow_le_zpow_left₀ he (by norm_num) (by norm_num)

theorem ten_zpow_le_two_zpow {e : ℤ} (he : e ≤ 0) : (10 : ℚ) ^ e ≤ 2 ^ (3 * e) := by
  have hinv := two_zpow_le_ten_zpow (neg_nonneg.mpr he)
  rw [mul_neg, zpow_neg, zpow_neg] at hinv
  exact (inv_le_inv₀ (by positivity) (by positivity)).mp hinv

/-- A whole number times a large power of ten is too large for a double. -/
theorem large_of_exponent {n : Nat} {e : ℤ} (hn : 0 < n) (he : 400 ≤ e) :
    2 ^ (1024 : ℤ) ≤ (n : ℚ) * 10 ^ e := by
  have hone : (1 : ℚ) ≤ n := by exact_mod_cast hn
  calc (2 : ℚ) ^ (1024 : ℤ) ≤ 2 ^ (3 * e) := zpow_le_zpow_right₀ one_le_two (by omega)
    _ ≤ 10 ^ e := two_zpow_le_ten_zpow (by omega)
    _ ≤ n * 10 ^ e := le_mul_of_one_le_left (by positivity) hone

/-- A number that has its first digit far behind the point is too small for a double. -/
theorem small_of_exponent {n width : Nat} {e : ℤ} (hn : n < 10 ^ width) (he : e + width ≤ -400) :
    (n : ℚ) * 10 ^ e < 2 ^ (-1075 : ℤ) := by
  have hlt : (n : ℚ) < 10 ^ (width : ℤ) := by
    rw [zpow_natCast]
    exact_mod_cast hn
  calc (n : ℚ) * 10 ^ e < 10 ^ (width : ℤ) * 10 ^ e :=
        mul_lt_mul_of_pos_right hlt (by positivity)
    _ = 10 ^ (e + width) := by rw [add_comm, zpow_add₀ (by norm_num)]
    _ ≤ 2 ^ (3 * (e + width)) := ten_zpow_le_two_zpow (by omega)
    _ ≤ 2 ^ (-1075 : ℤ) := zpow_le_zpow_right₀ one_le_two (by omega)

/-- **A decimal number is rounded**, also where the powers of ten are left out because the result
is zero or infinite without them. -/
theorem pack_ofScientific (m : Nat) (e : ℤ) :
    Float.Model.pack (UnpackedFloat.ofScientific .binary64 m e) =
      .pack (rounded ((m : ℚ) * 10 ^ e)) := by
  unfold UnpackedFloat.ofScientific
  by_cases hm : m = 0
  · rw [dif_pos hm, hm, Nat.cast_zero, zero_mul, rounded_zero]
  have hpos : 0 < m := Nat.pos_of_ne_zero hm
  rw [dif_neg hm]
  by_cases hlarge : e > 2 ^ 11
  · rw [if_pos hlarge]
    refine pack_congr ?_
    rw [pack_rounded_of_large (large_of_exponent hpos (by omega))]
    rfl
  rw [if_neg hlarge]
  by_cases hsmall : e < -((2 ^ 11 : ℤ) + m.log2)
  · have hwidth : m < 10 ^ (m.log2 + 1) :=
      Nat.lt_log2_self.trans_le (Nat.pow_le_pow_left (by decide) _)
    have htiny := small_of_exponent (e := e) hwidth (by push_cast; omega)
    rw [if_pos hsmall, rounded_of_small (by positivity) htiny]
  rw [if_neg hsmall]
  by_cases he : 0 ≤ e
  · obtain ⟨k, rfl⟩ := Int.eq_ofNat_of_zero_le he
    have hbits : Format.binary64.mantissaBits = 53 := rfl
    have hfull : 2 ^ 52 ≤ (m <<< Format.binary64.mantissaBits) * 10 ^ (k : ℤ).toNat := by
      rw [hbits, Nat.shiftLeft_eq]
      have hpower : 1 ≤ m * 10 ^ (k : ℤ).toNat := Nat.mul_pos hpos (by positivity)
      calc 2 ^ 52 ≤ 2 ^ 53 * 1 := by norm_num
        _ ≤ 2 ^ 53 * (m * 10 ^ (k : ℤ).toNat) := Nat.mul_le_mul_left _ hpower
        _ = m * 2 ^ 53 * 10 ^ (k : ℤ).toNat := by ring
    rw [if_pos he, mul_eq_rounded _ _ hfull, hbits, Nat.shiftLeft_eq, Int.toNat_natCast]
    have hcancel : (2 : ℚ) ^ 53 * 2 ^ (-53 : ℤ) = 1 := by norm_num
    simp only [Nat.cast_mul, Nat.cast_pow, Nat.cast_ofNat]
    rw [mul_assoc (m : ℚ), hcancel, mul_one, zpow_zero, mul_one, zpow_natCast]
  · obtain ⟨k, rfl⟩ := Int.exists_eq_neg_ofNat (by omega : e ≤ 0)
    rw [if_neg he, div_eq_rounded, neg_neg, Int.toNat_natCast]
    congr 2
    push_cast
    norm_num
    rfl

/-- The decoded form of a double that holds a number exactly, with all its digits. -/
def IsExact (v : Float) (x : ℚ) : Prop :=
  ∃ (m : Nat) (e : ℤ) (hm : 0 < m),
    v.toModel.unpack = .finite .positive m e hm ∧ 2 ^ 52 ≤ m ∧ (m : ℚ) * 2 ^ e = x

/-- Whether a decoded double holds a natural number exactly, with all its digits. -/
def decodesTo (n : Nat) : UnpackedFloat → Bool
  | .finite .positive m e _ =>
    decide (2 ^ 52 ≤ m) && decide (m * 2 ^ e.toNat = n * 2 ^ (-e).toNat)
  | _ => false

theorem isExact_of_decodesTo {v : Float} {n : Nat} (h : decodesTo n v.toModel.unpack = true) :
    IsExact v n := by
  unfold decodesTo at h
  split at h
  · next m e hm heq =>
      rw [Bool.and_eq_true, decide_eq_true_iff, decide_eq_true_iff] at h
      refine ⟨m, e, hm, heq, h.1, ?_⟩
      have hvalue : (m : ℚ) * 2 ^ e.toNat = n * 2 ^ (-e).toNat := by exact_mod_cast h.2
      have hsplit : (2 : ℚ) ^ e = 2 ^ e.toNat / 2 ^ (-e).toNat := by
        rw [← zpow_natCast, ← zpow_natCast, ← zpow_sub₀ two_ne_zero]
        congr 1
        omega
      rw [hsplit, ← mul_div_assoc, hvalue, mul_div_cancel_right₀ _ (by positivity)]
  · cases h

/-- The powers of ten that are kept in a table are exact. -/
theorem isExact_power {k : Nat} (h : k < Float.exactlyRepresentablePowersOfTen.size) :
    IsExact Float.exactlyRepresentablePowersOfTen[k] (10 ^ k) := by
  have hall : ∀ k : Fin 23,
      decodesTo (10 ^ k.val) (Float.exactlyRepresentablePowersOfTen[k]).toModel.unpack = true := by
    decide
  have hk : k < 23 := h
  have hexact := isExact_of_decodesTo (hall ⟨k, hk⟩)
  push_cast at hexact
  exact hexact

/-- A whole number of at most 53 binary digits is exact. -/
theorem isExact_toFloat {m : Nat} (hm : 0 < m) (hlt : m < 2 ^ 53) :
    IsExact m.toUInt64.toFloat m := by
  have hword : m.toUInt64.toNat = m := Nat.mod_eq_of_lt (hlt.trans (by decide))
  have hlog : m.log2 ≤ 52 := by
    have := (Nat.log2_lt hm.ne').mpr hlt
    omega
  obtain ⟨shift, hshift⟩ : ∃ shift, m.log2 + shift = 52 := ⟨52 - m.log2, by omega⟩
  have hfull : 2 ^ 52 ≤ m * 2 ^ shift := by
    rw [← hshift, pow_add]
    exact Nat.mul_le_mul_right _ (Nat.log2_self_le hm.ne')
  have hfits : m * 2 ^ shift < 2 ^ 53 := by
    rw [show 53 = m.log2 + 1 + shift by omega, pow_add _ (m.log2 + 1)]
    exact Nat.mul_lt_mul_of_pos_right Nat.lt_log2_self (by positivity)
  have hvalue : ((m * 2 ^ shift : ℕ) : ℚ) * 2 ^ (-(shift : ℤ)) = m := by
    rw [zpow_neg, zpow_natCast]
    push_cast
    field_simp
  have hcanonical : IsCanonical (.finite .positive (m * 2 ^ shift) (-(shift : ℤ)) (by positivity)) :=
    .normal _ _ hfull hfits (by omega) (by omega)
  refine ⟨m * 2 ^ shift, -(shift : ℤ), by positivity, ?_, hfull, hvalue⟩
  show (Float.Model.pack (UnpackedFloat.ofNat .binary64 m.toUInt64.toNat)).unpack = _
  rw [hword, ofNat_eq_rounded, ← hvalue, rounded_canonical hcanonical, hcanonical.unpack_pack]

theorem IsExact.mul {v w : Float} {x y : ℚ} (hv : IsExact v x) (hw : IsExact w y) :
    v * w = nearest (x * y) := by
  obtain ⟨m₁, e₁, h₁, hv, hfull, rfl⟩ := hv
  obtain ⟨m₂, e₂, h₂, hw, -, rfl⟩ := hw
  show Float.ofModel (.pack (UnpackedFloat.mul .binary64 v.toModel.unpack w.toModel.unpack)) = _
  rw [hv, hw, mul_eq_rounded h₁ h₂ (hfull.trans (Nat.le_mul_of_pos_right _ h₂))]
  rfl

theorem IsExact.div {v w : Float} {x y : ℚ} (hv : IsExact v x) (hw : IsExact w y) :
    v / w = nearest (x / y) := by
  obtain ⟨m₁, e₁, h₁, hv, -, rfl⟩ := hv
  obtain ⟨m₂, e₂, h₂, hw, -, rfl⟩ := hw
  show Float.ofModel (.pack (UnpackedFloat.div .binary64 v.toModel.unpack w.toModel.unpack)) = _
  rw [hv, hw, div_eq_rounded]
  rfl

/-- **A decimal number gives the nearest double**, on the short way of exact doubles as on the long
one. -/
theorem ofScientific_eq_nearest (m : Nat) (s : Bool) (k : Nat) :
    Float.ofScientific m s k = nearest ((m : ℚ) * 10 ^ (if s then -(k : ℤ) else k)) := by
  unfold Float.ofScientific
  dsimp only
  split
  · next h =>
      have hpower := isExact_power (k := k) (by
        show k < 23
        omega)
      rcases Nat.eq_zero_or_pos m with rfl | hm
      · have hzero : (Nat.toUInt64 0).toFloat.toModel.unpack = .zero .positive := rfl
        obtain ⟨m, e, hm, hpower, -, -⟩ := hpower
        rw [Nat.cast_zero, zero_mul, nearest, rounded_zero]
        cases s with
        | false =>
            show Float.ofModel (.pack (UnpackedFloat.mul .binary64 _ _)) = _
            rw [hzero, hpower]
            rfl
        | true =>
            show Float.ofModel (.pack (UnpackedFloat.div .binary64 _ _)) = _
            rw [hzero, hpower]
            rfl
      · have hm' := isExact_toFloat hm h.1
        cases s with
        | false =>
            rw [if_neg (by decide), if_neg (by decide), hm'.mul hpower, zpow_natCast]
        | true =>
            rw [if_pos rfl, if_pos rfl, hm'.div hpower, zpow_neg, zpow_natCast, div_eq_mul_inv]
  · show Float.ofModel (.pack (UnpackedFloat.ofScientific .binary64 m _)) = _
    rw [pack_ofScientific]
    cases s with
    | false => rfl
    | true =>
        rw [nearest, if_pos rfl, if_pos rfl, Int.negOfNat_eq]
        rfl

/-! ## Numerals -/

theorem nearest_of_small {x y : ℚ} (hx : 0 ≤ x) (hx' : x < 2 ^ (-1075 : ℤ)) (hy : 0 ≤ y)
    (hy' : y < 2 ^ (-1075 : ℤ)) : nearest x = nearest y := by
  rw [nearest, nearest, rounded_of_small hx hx', rounded_of_small hy hy']

theorem nearest_of_large {x y : ℚ} (hx : 2 ^ (1024 : ℤ) ≤ x) (hy : 2 ^ (1024 : ℤ) ≤ y) :
    nearest x = nearest y := by
  rw [nearest, nearest, pack_congr ((pack_rounded_of_large hx).trans (pack_rounded_of_large hy).symm)]

/-- **A numeral gives the nearest double**: cutting off its exponent changes nothing. -/
theorem scaled_eq_nearest {n width : Nat} (e : ℤ) (hn : n < 10 ^ width) :
    scaled n e width = nearest ((n : ℚ) * 10 ^ e) := by
  unfold scaled
  rcases Nat.eq_zero_or_pos n with rfl | hpos
  · simp only [ofScientific_eq_nearest, Nat.cast_zero, zero_mul, ite_self]
  split
  · next he =>
    obtain ⟨k, rfl⟩ := Int.eq_ofNat_of_zero_le he
    rw [ofScientific_eq_nearest, if_neg (by decide), Int.toNat_natCast]
    rcases le_total k 400 with hk | hk
    · rw [min_eq_left hk]
    · rw [min_eq_right hk]
      exact nearest_of_large (large_of_exponent hpos (by omega))
        (large_of_exponent hpos (by omega))
  · next he =>
    obtain ⟨k, rfl⟩ := Int.exists_eq_neg_ofNat (by omega : e ≤ 0)
    rw [ofScientific_eq_nearest, if_pos rfl, Int.natAbs_neg, Int.natAbs_natCast]
    rcases le_total k (400 + width) with hk | hk
    · rw [min_eq_left hk]
    · rw [min_eq_right hk]
      exact nearest_of_small (by positivity) (small_of_exponent hn (by omega))
        (by positivity) (small_of_exponent hn (by omega))

end Tabular
