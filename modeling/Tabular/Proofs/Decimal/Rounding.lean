import Mathlib.Data.Int.Log
import Tabular.Proofs.Decimal.Packing

set_option autoImplicit false

/-! # Rounding to the nearest double

Arithmetic on doubles computes the first binary digits of its exact result, with a note on what
comes after them, and rounds. The result depends on the exact number alone: whichever digits the
rounding starts from, it gives the double nearest to the number (`roundWithAccuracy_eq_rounded`), as
long as no digit that the result has room for is missing. In particular a double is rounded to
itself (`rounded_canonical`). Numbers below half the smallest double give zero, and those of at
least `2^1024` infinity.
-/

namespace Tabular

open Float.Model (UnpackedFloat Format totalExponent)
open Float.Model.UnpackedFloat (Sign Accuracy ExtendedMantissa)

/-! ## Cutting off digits -/

/-- A number cut off at its point. What is behind the point is summed up in the first binary digit
there and in whether any other follows. -/
def truncated (y : ℚ) : ExtendedMantissa where
  mantissa := ⌊y⌋₊
  roundBit := decide (1 / 2 ≤ y - ⌊y⌋₊)
  stickyBit := decide (y - ⌊y⌋₊ ≠ 0 ∧ y - ⌊y⌋₊ ≠ 1 / 2)

theorem truncated_natCast (m : Nat) : truncated m = ⟨m, false, false⟩ := by
  norm_num [truncated]

/-- Moving the point by one binary place. -/
theorem shiftRightOne_truncated {y : ℚ} (hy : 0 ≤ y) :
    (truncated y).shiftRightOne = truncated (y / 2) := by
  have hhalf : ⌊y / 2⌋₊ = ⌊y⌋₊ / 2 := Nat.floor_div_ofNat y 2
  have hlower : 0 ≤ y - ⌊y⌋₊ := sub_nonneg.mpr (Nat.floor_le hy)
  have hupper : y - ⌊y⌋₊ < 1 := sub_lt_iff_lt_add'.mpr (Nat.lt_floor_add_one y)
  have hparts : (⌊y⌋₊ : ℚ) = 2 * ((⌊y⌋₊ / 2 : ℕ) : ℚ) + ((⌊y⌋₊ % 2 : ℕ) : ℚ) := by
    exact_mod_cast (Nat.div_add_mod _ 2).symm
  have hsplit : y / 2 - ((⌊y⌋₊ / 2 : ℕ) : ℚ) = (y - ⌊y⌋₊ + ((⌊y⌋₊ % 2 : ℕ) : ℚ)) / 2 := by
    linarith
  simp only [truncated, ExtendedMantissa.shiftRightOne, hhalf, hsplit]
  generalize y - ⌊y⌋₊ = f at hlower hupper
  have hfirst : ((⌊y⌋₊ % 2 != 0) = true) ↔ 1 / 2 ≤ (f + ((⌊y⌋₊ % 2 : ℕ) : ℚ)) / 2 := by
    rcases Nat.mod_two_eq_zero_or_one ⌊y⌋₊ with hbit | hbit <;> simp [hbit] <;> linarith
  -- another digit follows exactly when the part behind the point is not zero
  have hbefore : (1 / 2 ≤ f ∨ f ≠ 0 ∧ f ≠ 1 / 2) ↔ f ≠ 0 := by
    constructor
    · rintro (hhalf | ⟨hzero, -⟩)
      · linarith
      · exact hzero
    · intro hzero
      by_cases hhalf : f = 1 / 2
      · exact .inl hhalf.ge
      · exact .inr ⟨hzero, hhalf⟩
  have hafter : ((f + ((⌊y⌋₊ % 2 : ℕ) : ℚ)) / 2 ≠ 0 ∧ (f + ((⌊y⌋₊ % 2 : ℕ) : ℚ)) / 2 ≠ 1 / 2) ↔
      f ≠ 0 := by
    rcases Nat.mod_two_eq_zero_or_one ⌊y⌋₊ with hbit | hbit <;> rw [hbit] <;> push_cast <;>
      constructor
    · rintro ⟨hzero, -⟩ rfl
      exact hzero (by norm_num)
    · intro hzero
      exact ⟨fun h => hzero (by linarith), fun h => absurd hupper (by linarith)⟩
    · rintro ⟨-, hhalf⟩ rfl
      exact hhalf (by norm_num)
    · intro hzero
      exact ⟨fun h => absurd hlower (by linarith), fun h => hzero (by linarith)⟩
  congr 1
  · rw [Bool.eq_iff_iff, hfirst, decide_eq_true_iff]
  · rw [Bool.eq_iff_iff, Bool.or_eq_true, decide_eq_true_iff, decide_eq_true_iff,
      decide_eq_true_iff, hbefore, hafter]

/-- The rounded significand is at least the cut one, and at most one more. -/
theorem roundedMantissa_bounds (em : ExtendedMantissa) :
    em.mantissa ≤ em.roundedMantissa ∧ em.roundedMantissa ≤ em.mantissa + 1 := by
  rcases em with ⟨m, roundBit, stickyBit⟩
  unfold ExtendedMantissa.roundedMantissa
  cases roundBit <;> cases stickyBit <;>
    simp only [ExtendedMantissa.accuracy, Accuracy.roundToNearestEven] <;> omega

/-- Less than one half is rounded down. -/
theorem roundedMantissa_of_lt_half {y : ℚ} (hhalf : y < 1 / 2) :
    (truncated y).roundedMantissa = 0 := by
  have hfloor : ⌊y⌋₊ = 0 := Nat.floor_eq_zero.mpr (by linarith)
  have hbit : ¬ 1 / 2 ≤ y - ((0 : ℕ) : ℚ) := by
    push_cast
    linarith
  unfold truncated ExtendedMantissa.roundedMantissa
  rw [hfloor, decide_eq_false hbit]
  cases decide (y - ((0 : ℕ) : ℚ) ≠ 0 ∧ y - ((0 : ℕ) : ℚ) ≠ 1 / 2) <;> rfl

theorem shiftRight_truncated {y : ℚ} (hy : 0 ≤ y) (n : Nat) :
    truncated y >>> n = truncated (y / 2 ^ n) := by
  show n.repeat ExtendedMantissa.shiftRightOne (truncated y) = _
  induction n with
  | zero => simp [Nat.repeat]
  | succ n ih =>
      rw [Nat.repeat, ih, shiftRightOne_truncated (by positivity), div_div, pow_succ]

/-! ## Rounding -/

/-- The leading binary digit of a number. -/
theorem le_log_iff {x : ℚ} (hx : 0 < x) (e : ℤ) : e ≤ Int.log 2 x ↔ 2 ^ e ≤ x := by
  rw [← Int.zpow_le_iff_le_log one_lt_two hx, Nat.cast_ofNat]

theorem log_lt_iff {x : ℚ} (hx : 0 < x) (e : ℤ) : Int.log 2 x < e ↔ x < 2 ^ e := by
  rw [← not_le, le_log_iff hx, not_le]

/-- The exponent that a number is rounded at: 53 binary digits remain, or fewer if the number is
very small. -/
def exponentOf (x : ℚ) : ℤ := max (Int.log 2 x - 52) (-1074)

/-- The decoded double nearest to a number that is not negative. Of two that are equally near, it is
the one with an even significand. -/
def rounded (x : ℚ) : UnpackedFloat :=
  let m := (truncated (x / 2 ^ exponentOf x)).roundedMantissa
  if h : m = 0 then .zero .positive
  else if m < 2 ^ 53 then .finite .positive m (exponentOf x) (Nat.pos_of_ne_zero h)
  else .finite .positive (2 ^ 52) (exponentOf x + 1) (by decide)

theorem targetExponent_eq (t : ℤ) : Format.binary64.targetExponent t = max (t - 53) (-1074) := rfl

/-- What is left of a number at its exponent has at most 53 digits. -/
theorem div_exponentOf_lt (x : ℚ) : x / 2 ^ exponentOf x < 2 ^ 53 := by
  have hlog : x < 2 ^ (Int.log 2 x + 1) := by
    rw [← Nat.cast_ofNat (R := ℚ) (n := 2)]
    exact Int.lt_zpow_succ_log_self one_lt_two x
  have hmono : (2 : ℚ) ^ (Int.log 2 x + 1) ≤ 2 ^ (53 + exponentOf x) :=
    zpow_le_zpow_right₀ one_le_two (by unfold exponentOf; omega)
  rw [div_lt_iff₀ (by positivity)]
  calc x < 2 ^ (Int.log 2 x + 1) := hlog
    _ ≤ 2 ^ (53 + exponentOf x) := hmono
    _ = 2 ^ 53 * 2 ^ exponentOf x := by rw [zpow_add₀ two_ne_zero]; norm_num

/-- It has exactly 53 digits, unless the exponent is the smallest one. -/
theorem le_div_exponentOf {x : ℚ} (hx : 0 < x) (he : exponentOf x ≠ -1074) :
    2 ^ 52 ≤ x / 2 ^ exponentOf x := by
  have hlog : (2 : ℚ) ^ Int.log 2 x ≤ x := (le_log_iff hx _).mp le_rfl
  have hexponent : 52 + exponentOf x = Int.log 2 x := by
    unfold exponentOf at he ⊢
    omega
  rw [le_div_iff₀ (by positivity)]
  calc (2 : ℚ) ^ 52 * 2 ^ exponentOf x = 2 ^ (52 + exponentOf x) := by
        rw [zpow_add₀ two_ne_zero]; norm_num
    _ = 2 ^ Int.log 2 x := by rw [hexponent]
    _ ≤ x := hlog

/-- The leading digit of a number is that of the whole number that it starts with. -/
theorem log_eq_of_floor_ne_zero {x : ℚ} {e : ℤ} (hx : 0 < x) (hm : ⌊x / 2 ^ e⌋₊ ≠ 0) :
    Int.log 2 x = (⌊x / 2 ^ e⌋₊.log2 : ℤ) + e := by
  have hpos : 0 < x / 2 ^ e := by positivity
  have hlower : (2 : ℚ) ^ ((⌊x / 2 ^ e⌋₊.log2 : ℤ) + e) ≤ x := by
    have hfloor : ((2 ^ ⌊x / 2 ^ e⌋₊.log2 : ℕ) : ℚ) ≤ x / 2 ^ e :=
      (Nat.cast_le.mpr (Nat.log2_self_le hm)).trans (Nat.floor_le hpos.le)
    rw [zpow_add₀ two_ne_zero, zpow_natCast, ← le_div_iff₀ (by positivity)]
    exact_mod_cast hfloor
  have hupper : x < 2 ^ ((⌊x / 2 ^ e⌋₊.log2 : ℤ) + e + 1) := by
    have hfloor : x / 2 ^ e < ((2 ^ (⌊x / 2 ^ e⌋₊.log2 + 1) : ℕ) : ℚ) :=
      (Nat.floor_lt hpos.le).mp Nat.lt_log2_self
    have hexponent : (⌊x / 2 ^ e⌋₊.log2 : ℤ) + e + 1 = ((⌊x / 2 ^ e⌋₊.log2 + 1 : ℕ) : ℤ) + e := by
      omega
    rw [hexponent, zpow_add₀ two_ne_zero, zpow_natCast, ← div_lt_iff₀ (by positivity)]
    exact_mod_cast hfloor
  have hle := (le_log_iff hx _).mpr hlower
  have hlt := (log_lt_iff hx _).mpr hupper
  omega

/-- The exponent of a number can be read off its first digits. -/
theorem targetExponent_floor {x : ℚ} {e : ℤ} (hx : 0 < x) (he : e ≤ exponentOf x) :
    Format.binary64.targetExponent (totalExponent ⌊x / 2 ^ e⌋₊ e) = exponentOf x := by
  rw [targetExponent_eq, totalExponent]
  by_cases hzero : ⌊x / 2 ^ e⌋₊ = 0
  · -- the number is less than one unit of its exponent, which then is the smallest one
    have hlt : x < 2 ^ e := by
      have hfloor := Nat.floor_eq_zero.mp hzero
      rwa [div_lt_one (by positivity)] at hfloor
    have hlog := (log_lt_iff hx e).mpr hlt
    rw [hzero, Nat.log2_zero]
    unfold exponentOf at he ⊢
    omega
  · rw [exponentOf, log_eq_of_floor_ne_zero hx hzero]
    omega

/-- The first shift. -/
theorem shiftToTargetExponent_eq {x : ℚ} {m : Nat} {e : ℤ} {accuracy : Accuracy} (hx : 0 < x)
    (hm : ExtendedMantissa.ofMantissaAndAccuracy m accuracy = truncated (x / 2 ^ e))
    (he : e ≤ exponentOf x) :
    UnpackedFloat.shiftToTargetExponent .binary64 m e accuracy =
      (truncated (x / 2 ^ exponentOf x), exponentOf x) := by
  have hfloor : m = ⌊x / 2 ^ e⌋₊ := by
    have hmantissa := congrArg ExtendedMantissa.mantissa hm
    unfold ExtendedMantissa.ofMantissaAndAccuracy at hmantissa
    split at hmantissa <;> exact hmantissa
  obtain ⟨n, hn⟩ : ∃ n : ℕ, exponentOf x - e = n := ⟨(exponentOf x - e).toNat, by omega⟩
  have hpoint : x / 2 ^ e / 2 ^ n = x / 2 ^ exponentOf x := by
    rw [div_div, ← zpow_natCast, ← zpow_add₀ two_ne_zero]
    congr 2
    omega
  unfold UnpackedFloat.shiftToTargetExponent UnpackedFloat.shiftToExponent
  dsimp only
  rw [hm, hfloor, targetExponent_floor hx he, hn, Int.toNat_natCast,
    shiftRight_truncated (by positivity), hpoint]
  congr 1
  omega

/-- A significand that fits is not shifted. -/
theorem shiftToTargetExponent_of_lt {m : Nat} {e : ℤ} (hm : m < 2 ^ 53) (he : -1074 ≤ e) :
    UnpackedFloat.shiftToTargetExponent .binary64 m e .exact = (⟨m, false, false⟩, e) := by
  have hlog : m.log2 ≤ 52 := by
    by_cases hzero : m = 0
    · subst hzero
      decide
    · have := (Nat.log2_lt hzero).mpr hm
      omega
  have hshift : (Format.binary64.targetExponent (totalExponent m e) - e).toNat = 0 := by
    rw [targetExponent_eq, totalExponent]
    omega
  unfold UnpackedFloat.shiftToTargetExponent UnpackedFloat.shiftToExponent
  dsimp only
  rw [hshift]
  simp [HShiftRight.hShiftRight, Nat.repeat, ExtendedMantissa.ofMantissaAndAccuracy]

/-- A significand that is rounded up to one digit too many is shifted by one. -/
theorem shiftToTargetExponent_carry {e : ℤ} (he : -1074 ≤ e) :
    UnpackedFloat.shiftToTargetExponent .binary64 (2 ^ 53) e .exact =
      (⟨2 ^ 52, false, false⟩, e + 1) := by
  have hshift : (Format.binary64.targetExponent (totalExponent (2 ^ 53) e) - e).toNat = 1 := by
    rw [targetExponent_eq, totalExponent, Nat.log2_two_pow]
    omega
  unfold UnpackedFloat.shiftToTargetExponent UnpackedFloat.shiftToExponent
  dsimp only
  rw [hshift]
  rfl

/-- **Rounding gives the nearest double**, whichever digits it starts from. -/
theorem roundWithAccuracy_eq_rounded {x : ℚ} {m : Nat} {e : ℤ} {accuracy : Accuracy} (hx : 0 < x)
    (hm : ExtendedMantissa.ofMantissaAndAccuracy m accuracy = truncated (x / 2 ^ e))
    (he : e ≤ exponentOf x) :
    UnpackedFloat.roundWithAccuracy .binary64 .positive m e accuracy = rounded x := by
  have hlower : -1074 ≤ exponentOf x := le_max_right _ _
  have hle : (truncated (x / 2 ^ exponentOf x)).roundedMantissa ≤ 2 ^ 53 := by
    have hfloor : ⌊x / 2 ^ exponentOf x⌋₊ < 2 ^ 53 :=
      (Nat.floor_lt' (by decide)).mpr (by exact_mod_cast div_exponentOf_lt x)
    exact (roundedMantissa_bounds _).2.trans hfloor
  unfold UnpackedFloat.roundWithAccuracy rounded
  rw [shiftToTargetExponent_eq hx hm he]
  dsimp only
  generalize (truncated (x / 2 ^ exponentOf x)).roundedMantissa = m' at hle ⊢
  rcases hle.lt_or_eq with hlt | rfl
  · rw [shiftToTargetExponent_of_lt hlt hlower]
    simp only [hlt, if_true]
  · rw [shiftToTargetExponent_carry hlower]
    rfl

/-! ## Doubles, very small and very large numbers -/

theorem log_mul_zpow {m : Nat} (hm : 0 < m) (e : ℤ) :
    Int.log 2 ((m : ℚ) * 2 ^ e) = (m.log2 : ℤ) + e := by
  have hfloor : ⌊(m : ℚ) * 2 ^ e / 2 ^ e⌋₊ = m := by
    rw [mul_div_cancel_right₀ _ (by positivity), Nat.floor_natCast]
  have hlog := log_eq_of_floor_ne_zero (x := (m : ℚ) * 2 ^ e) (e := e) (by positivity)
    (by rw [hfloor]; exact hm.ne')
  rwa [hfloor] at hlog

theorem exponentOf_canonical {s : Sign} {m : Nat} {e : ℤ} {hm : 0 < m}
    (h : IsCanonical (.finite s m e hm)) : exponentOf ((m : ℚ) * 2 ^ e) = e := by
  rw [exponentOf, log_mul_zpow hm]
  cases h with
  | subnormal _ _ hlt =>
      have := (Nat.log2_lt hm.ne').mpr hlt
      omega
  | normal _ _ hfull hlt hlower _ =>
      have := (Nat.log2_eq_iff hm.ne').mpr ⟨hfull, hlt⟩
      omega

/-- **A double is rounded to itself.** -/
theorem rounded_canonical {m : Nat} {e : ℤ} {hm : 0 < m}
    (h : IsCanonical (.finite .positive m e hm)) :
    rounded ((m : ℚ) * 2 ^ e) = .finite .positive m e hm := by
  have hpoint : (m : ℚ) * 2 ^ e / 2 ^ e = m := mul_div_cancel_right₀ _ (by positivity)
  have hlt := h.bounds.1
  unfold rounded
  rw [exponentOf_canonical h, hpoint, truncated_natCast]
  have hm' : (⟨m, false, false⟩ : ExtendedMantissa).roundedMantissa = m := rfl
  simp only [hm', hm.ne', dif_neg, hlt, if_true, not_false_eq_true]

theorem rounded_zero : rounded 0 = .zero .positive := by
  unfold rounded
  rw [zero_div, ← Nat.cast_zero, truncated_natCast]
  rfl

/-- The rounded significand has 53 digits unless the exponent is the smallest one. -/
theorem le_roundedMantissa {x : ℚ} (hx : 0 < x) (he : exponentOf x ≠ -1074) :
    2 ^ 52 ≤ (truncated (x / 2 ^ exponentOf x)).roundedMantissa := by
  have hfloor : 2 ^ 52 ≤ ⌊x / 2 ^ exponentOf x⌋₊ :=
    Nat.le_floor (by exact_mod_cast le_div_exponentOf hx he)
  exact hfloor.trans (roundedMantissa_bounds (truncated (x / 2 ^ exponentOf x))).1

/-- A number that is not too large is rounded to a double. -/
theorem isCanonical_rounded {x : ℚ} (hx : 0 ≤ x) (hlt : x < 2 ^ (1023 : ℤ)) :
    IsCanonical (rounded x) := by
  rcases hx.eq_or_lt with rfl | hpos
  · rw [rounded_zero]
    exact .zero _
  · have hlog := (log_lt_iff hpos _).mpr hlt
    have hlower : -1074 ≤ exponentOf x := le_max_right _ _
    have hupper : exponentOf x ≤ 970 := by
      unfold exponentOf
      omega
    have hfull : 2 ^ 52 ≤ (truncated (x / 2 ^ exponentOf x)).roundedMantissa ∨
        exponentOf x = -1074 := by
      by_cases he : exponentOf x = -1074
      · exact .inr he
      · exact .inl (le_roundedMantissa hpos he)
    unfold rounded
    dsimp only
    split
    · exact .zero _
    · split
      · next hm hm' => exact isCanonical_of_bounds _ _ hm' hlower (by omega) hfull
      · exact .normal _ _ le_rfl (by decide) (by omega) (by omega)

/-- A number of less than half the smallest double is rounded to zero. -/
theorem rounded_of_small {x : ℚ} (hx : 0 ≤ x) (hsmall : x < 2 ^ (-1075 : ℤ)) :
    rounded x = .zero .positive := by
  rcases hx.eq_or_lt with rfl | hpos
  · exact rounded_zero
  · have hlog : Int.log 2 x < -1075 :=
      (Int.lt_zpow_iff_log_lt one_lt_two hpos).mp (by exact_mod_cast hsmall)
    have hexponent : exponentOf x = -1074 := by
      unfold exponentOf
      omega
    have hhalf : x / 2 ^ (-1074 : ℤ) < 1 / 2 := by
      rw [div_lt_iff₀ (by positivity)]
      calc x < 2 ^ (-1075 : ℤ) := hsmall
        _ = 1 / 2 * 2 ^ (-1074 : ℤ) := by
            rw [show (-1075 : ℤ) = -1 + -1074 by norm_num, zpow_add₀ two_ne_zero]
            norm_num
    have hround := roundedMantissa_of_lt_half hhalf
    unfold rounded
    rw [hexponent]
    simp only [hround, dif_pos]

/-- A significand with too large an exponent is packed as infinity. -/
theorem pack_overflow {m : Nat} {e : ℤ} (hm : 0 < m) (he : 972 ≤ e) :
    UnpackedFloat.pack .binary64 (.finite .positive m e hm) =
      UnpackedFloat.packedInfinity .binary64 .positive := by
  have hbias : (Format.binary64.exponentBias : ℤ) = 1023 := rfl
  have hfits : 2 ^ 11 ≤ (e + Format.binary64.exponentBias + (52 : Nat)).toNat + 1 := by omega
  rw [UnpackedFloat.pack]
  dsimp only
  rw [if_pos hfits]

/-- A number that is too large for a double overflows. -/
theorem pack_rounded_of_large {x : ℚ} (hlarge : 2 ^ (1024 : ℤ) ≤ x) :
    UnpackedFloat.pack .binary64 (rounded x) = UnpackedFloat.packedInfinity .binary64 .positive := by
  have hpos : 0 < x := lt_of_lt_of_le (by positivity) hlarge
  have hlog := (le_log_iff hpos _).mpr hlarge
  have hexponent : 972 ≤ exponentOf x := by
    unfold exponentOf
    omega
  have hfull := le_roundedMantissa hpos (by omega)
  have hm : (truncated (x / 2 ^ exponentOf x)).roundedMantissa ≠ 0 := by omega
  unfold rounded
  simp only [hm, dif_neg, not_false_eq_true]
  split
  · exact pack_overflow _ hexponent
  · exact pack_overflow _ (by omega)

end Tabular
