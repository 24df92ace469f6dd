import Tabular.Proofs.Decimal.Nearest

set_option autoImplicit false

/-! # Quotients by whole numbers

A finite double that is divided by a whole number, other than zero, gives a finite double
(`isFinite_div_ofNat`), since rounding a number that is not larger than a double cannot overflow
(`isCanonical_rounded_of_le`). The whole number may itself be too large for a double; then it is taken
as infinite, and the quotient is zero. So a mean is finite whenever the sum is.
-/

namespace Tabular

open Float.Model (UnpackedFloat)
open Float.Model.UnpackedFloat (Sign Accuracy ExtendedMantissa)

/-! ## Rounding what a double bounds -/

/-- What is at most a whole number is rounded to at most this number. -/
theorem roundedMantissa_le {y : ℚ} {n : Nat} (hy : 0 ≤ y) (h : y ≤ n) :
    (truncated y).roundedMantissa ≤ n := by
  have hfloor : ⌊y⌋₊ ≤ n := Nat.floor_le_of_le h
  rcases hfloor.lt_or_eq with hlt | heq
  · exact (roundedMantissa_bounds (truncated y)).2.trans hlt
  · have hyn : y = n := le_antisymm h (heq ▸ Nat.floor_le hy)
    rw [hyn, truncated_natCast]
    exact le_rfl

/-- **A number that is not larger than a double is rounded to a double.** -/
theorem isCanonical_rounded_of_le {s : Sign} {m : Nat} {e : ℤ} {hm : 0 < m}
    (h : IsCanonical (.finite s m e hm)) {x : ℚ} (hx : 0 < x) (hle : x ≤ m * 2 ^ e) :
    IsCanonical (rounded x) := by
  obtain ⟨hlt, -, hupper, -⟩ := h.bounds
  have hm' : m ≤ 2 ^ 53 - 1 := by omega
  have hpoint : x / 2 ^ (971 : ℤ) ≤ ((2 ^ 53 - 1 : ℕ) : ℚ) := by
    rw [div_le_iff₀ (by positivity)]
    calc x ≤ m * 2 ^ e := hle
      _ ≤ ((2 ^ 53 - 1 : ℕ) : ℚ) * 2 ^ (971 : ℤ) :=
          mul_le_mul (by exact_mod_cast hm') (zpow_le_zpow_right₀ one_le_two hupper)
            (by positivity) (by positivity)
  have hsmall : x < 2 ^ (1024 : ℤ) := by
    have hsplit : (2 : ℚ) ^ (1024 : ℤ) = 2 ^ 53 * 2 ^ (971 : ℤ) := by
      rw [show (1024 : ℤ) = 53 + 971 by norm_num, zpow_add₀ two_ne_zero]
      rfl
    rw [hsplit, ← div_lt_iff₀ (by positivity)]
    exact hpoint.trans_lt (by norm_num)
  have hlog := (log_lt_iff hx _).mpr hsmall
  have hlower : -1074 ≤ exponentOf x := le_max_right _ _
  have hexponent : exponentOf x ≤ 971 := by
    unfold exponentOf
    omega
  have hfull : 2 ^ 52 ≤ (truncated (x / 2 ^ exponentOf x)).roundedMantissa ∨
      exponentOf x = -1074 := by
    by_cases he : exponentOf x = -1074
    · exact .inr he
    · exact .inl (le_roundedMantissa hx he)
  unfold rounded
  dsimp only
  split
  · exact .zero _
  · split
    · next hm hm' => exact isCanonical_of_bounds _ _ hm' hlower hexponent hfull
    · next hcarry =>
        -- with the largest exponent there is no carry
        have hbelow : exponentOf x ≠ 971 := by
          intro he
          rw [he] at hcarry
          have := roundedMantissa_le (by positivity) hpoint
          omega
        exact .normal _ _ le_rfl (by decide) (by omega) (by omega)

/-! ## Divisors -/

/-- A number from one on is rounded to a significand with all its digits, and not far behind the
point. -/
theorem exists_rounded_of_one_le {x : ℚ} (hx : 1 ≤ x) :
    ∃ (m : Nat) (e : ℤ) (hm : 0 < m), rounded x = .finite .positive m e hm ∧
      2 ^ 52 ≤ m ∧ m < 2 ^ 53 ∧ -52 ≤ e := by
  have hpos : 0 < x := one_pos.trans_le hx
  have hlog : 0 ≤ Int.log 2 x := (le_log_iff hpos 0).mpr (by rwa [zpow_zero])
  have hexponent : -52 ≤ exponentOf x := by
    unfold exponentOf
    omega
  have hfull := le_roundedMantissa hpos (by omega)
  unfold rounded
  dsimp only
  split
  · next hzero => omega
  · next hm =>
      split
      · next hlt => exact ⟨_, _, Nat.pos_of_ne_zero hm, rfl, hfull, hlt, hexponent⟩
      · exact ⟨2 ^ 52, _, by decide, rfl, le_rfl, by decide, by omega⟩

/-- The double nearest to a number from one on is at least one, or infinite. -/
theorem unpack_nearest_of_one_le {x : ℚ} (hx : 1 ≤ x) :
    (nearest x).toModel.unpack = .infinity .positive ∨
      ∃ (m : Nat) (e : ℤ) (hm : 0 < m),
        (nearest x).toModel.unpack = .finite .positive m e hm ∧ 1 ≤ (m : ℚ) * 2 ^ e := by
  obtain ⟨m, e, hm, hround, hfull, hlt, he⟩ := exists_rounded_of_one_le hx
  have hunpack : (nearest x).toModel.unpack =
      (Float.Model.pack (.finite .positive m e hm)).unpack := by
    rw [← hround]
    rfl
  rw [hunpack]
  by_cases hlarge : 972 ≤ e
  · left
    show UnpackedFloat.unpack .binary64 (UnpackedFloat.pack .binary64 _) = _
    rw [pack_overflow hm hlarge]
    rfl
  · right
    have hcanonical : IsCanonical (.finite .positive m e hm) :=
      .normal _ hm hfull hlt (by omega) (by omega)
    refine ⟨m, e, hm, hcanonical.unpack_pack, ?_⟩
    calc (1 : ℚ) = 2 ^ 52 * 2 ^ (-52 : ℤ) := by norm_num
      _ ≤ m * 2 ^ e := mul_le_mul (by exact_mod_cast hfull)
          (zpow_le_zpow_right₀ one_le_two he) (by positivity) (by positivity)

theorem ofNat_eq_nearest (n : Nat) : Float.ofNat n = nearest n := by
  show Float.ofScientific n false 0 = _
  rw [ofScientific_eq_nearest, if_neg (by decide), Nat.cast_zero, zpow_zero, mul_one]

/-! ## Quotients -/

/-- Rounding treats both signs alike. -/
theorem roundWithAccuracy_negative (m : Nat) (e : ℤ) (accuracy : Accuracy) :
    UnpackedFloat.roundWithAccuracy .binary64 .negative m e accuracy =
      (UnpackedFloat.roundWithAccuracy .binary64 .positive m e accuracy).neg := by
  unfold UnpackedFloat.roundWithAccuracy
  dsimp only
  split <;> rfl

/-- A number divided by one that is at least one gives a double again. -/
theorem canonical_div {s : Sign} {m₁ m₂ : Nat} {e₁ e₂ : ℤ} {h₁ : 0 < m₁} (h₂ : 0 < m₂)
    (h : IsCanonical (.finite s m₁ e₁ h₁)) (hone : 1 ≤ (m₂ : ℚ) * 2 ^ e₂) :
    IsCanonical (.div .binary64 (.finite s m₁ e₁ h₁) (.finite .positive m₂ e₂ h₂)) ∧
      (UnpackedFloat.div .binary64 (.finite s m₁ e₁ h₁)
        (.finite .positive m₂ e₂ h₂)).isFinite = true := by
  have hle : (m₁ * 2 ^ e₁ : ℚ) / (m₂ * 2 ^ e₂) ≤ m₁ * 2 ^ e₁ := div_le_self (by positivity) hone
  have hcanonical := isCanonical_rounded_of_le h (by positivity) hle
  have hfinite := isFinite_rounded ((m₁ * 2 ^ e₁ : ℚ) / (m₂ * 2 ^ e₂))
  rw [← div_eq_rounded h₁ h₂] at hcanonical hfinite
  cases s with
  | positive => exact ⟨hcanonical, hfinite⟩
  | negative =>
      have hneg : UnpackedFloat.div .binary64 (.finite .negative m₁ e₁ h₁)
            (.finite .positive m₂ e₂ h₂) =
          (UnpackedFloat.div .binary64 (.finite .positive m₁ e₁ h₁)
            (.finite .positive m₂ e₂ h₂)).neg :=
        roundWithAccuracy_negative ..
      rw [hneg]
      refine ⟨hcanonical.neg, ?_⟩
      generalize UnpackedFloat.div .binary64 _ _ = u at hfinite
      cases u <;> first | rfl | cases hfinite

/-- **A finite double divided by a whole number is finite.** -/
theorem isFinite_div_ofNat {v : Float} (hv : v.isFinite = true) {n : Nat} (hn : 0 < n) :
    (v / Float.ofNat n).isFinite = true := by
  have hone : (1 : ℚ) ≤ n := by exact_mod_cast hn
  have hdivisor := unpack_nearest_of_one_le hone
  rw [← ofNat_eq_nearest] at hdivisor
  suffices hquotient :
      IsCanonical (.div .binary64 v.toModel.unpack (Float.ofNat n).toModel.unpack) ∧
        (UnpackedFloat.div .binary64 v.toModel.unpack
          (Float.ofNat n).toModel.unpack).isFinite = true by
    show (Float.Model.pack (UnpackedFloat.div .binary64 v.toModel.unpack
      (Float.ofNat n).toModel.unpack)).unpack.isFinite = true
    rw [hquotient.1.unpack_pack, hquotient.2]
  have hcanonical := isCanonical_unpack v.toModel
  change v.toModel.unpack.isFinite = true at hv
  generalize v.toModel.unpack = u at hv hcanonical ⊢
  cases u with
  | notANumber | infinity s => cases hv
  | zero s =>
      rcases hdivisor with hw | ⟨m, e, hm, hw, -⟩ <;> rw [hw] <;> exact ⟨.zero _, rfl⟩
  | finite s m e hm =>
      rcases hdivisor with hw | ⟨m₂, e₂, h₂, hw, hlarge⟩
      · rw [hw]
        exact ⟨.zero _, rfl⟩
      · rw [hw]
        exact canonical_div h₂ hcanonical hlarge

end Tabular
