import Tabular.Proofs.Decimal.Nearest
import Tabular.Proofs.Decimal.Numeral

set_option autoImplicit false

/-! # Positional notation

A mantissa writes the number that its digits make up, divided by a power of ten for the digits
behind the point, and is read as the double nearest to it (`Mantissa.readUnsigned?_text`). The
positional notation of a decimal is a mantissa that writes the same number, whether the zeros are
behind the digits, the point is between them or more zeros are in front of them
(`Decimal.exists_positional_eq_text`).
-/

namespace Tabular

/-! ## Runs of digits -/

/-- A **digit run** has no characters but digits. -/
def IsDigits (cs : List Char) : Prop := ∀ c ∈ cs, c.isDigit = true

theorem IsDigits.append {as bs : List Char} (ha : IsDigits as) (hb : IsDigits bs) :
    IsDigits (as ++ bs) := by
  intro c hc
  rcases List.mem_append.mp hc with h | h
  · exact ha c h
  · exact hb c h

theorem isDigits_toDigits (n : Nat) : IsDigits (Nat.toDigits 10 n) :=
  fun _ hc => Nat.isDigit_of_mem_toDigits (by decide) (by decide) hc

theorem isDigits_zeros (n : Nat) : IsDigits (List.replicate n '0') := by
  intro c hc
  rw [List.eq_of_mem_replicate hc]
  rfl

theorem digitsValue_toDigits (n : Nat) : digitsValue (Nat.toDigits 10 n) = n :=
  Nat.ofDigitChars_ten_toDigits

theorem digitsValue_append (as bs : List Char) :
    digitsValue (as ++ bs) = 10 ^ bs.length * digitsValue as + digitsValue bs := by
  show Nat.ofDigitChars 10 (as ++ bs) 0 = _
  rw [Nat.ofDigitChars_append, Nat.ofDigitChars_eq_ofDigitChars_zero]
  rfl

theorem digitsValue_zeros (n : Nat) : digitsValue (List.replicate n '0') = 0 := by
  show Nat.ofDigitChars 10 (List.replicate n '0') 0 = 0
  rw [Nat.ofDigitChars_replicate_zero, Nat.mul_zero]

/-- A run of digits writes a number with at most so many digits. -/
theorem digitsValue_lt {ds : List Char} (h : IsDigits ds) : digitsValue ds < 10 ^ ds.length := by
  induction ds with
  | nil => decide
  | cons d ds ih =>
      have hrest := ih fun c hc => h c (List.mem_cons_of_mem _ hc)
      have hd : digitsValue [d] ≤ 9 := by
        have hdigit := h d List.mem_cons_self
        have hbounds : 48 ≤ d.toNat ∧ d.toNat ≤ 57 := by
          simpa [Char.isDigit, UInt32.le_iff_toNat_le] using hdigit
        show 10 * 0 + (d.toNat - 48) ≤ 9
        omega
      have hsplit := digitsValue_append [d] ds
      rw [List.singleton_append] at hsplit
      rw [hsplit, List.length_cons, Nat.pow_succ]
      calc 10 ^ ds.length * digitsValue [d] + digitsValue ds
          < 10 ^ ds.length * digitsValue [d] + 10 ^ ds.length := Nat.add_lt_add_left hrest _
        _ = 10 ^ ds.length * (digitsValue [d] + 1) := by ring
        _ ≤ 10 ^ ds.length * 10 := Nat.mul_le_mul_left _ (by omega)

/-! ## Mantissas -/

namespace Mantissa

/-- A mantissa is **well formed** when it has only digits, at least one of them, and none behind a
point that is not there. -/
structure IsWellFormed (m : Mantissa) : Prop where
  whole : IsDigits m.whole
  fraction : IsDigits m.fraction
  point : m.point = false → m.fraction = []
  hasDigit : m.hasDigit = true

/-- The number that a mantissa writes. -/
def number (m : Mantissa) : ℚ :=
  digitsValue (m.whole ++ m.fraction) * 10 ^ (-(m.fraction.length : ℤ))

/-- A mantissa gives the double nearest to the number that it writes. -/
theorem numeralValue_eq_nearest {m : Mantissa} (h : m.IsWellFormed) :
    numeralValue m none = nearest m.number := by
  have hlt := digitsValue_lt (h.whole.append h.fraction)
  rw [List.length_append] at hlt
  unfold numeralValue
  dsimp only
  rw [scaled_eq_nearest _ hlt, zero_sub]
  rfl

/-- **A mantissa is read as the nearest double.** -/
theorem readUnsigned?_text {m : Mantissa} (h : m.IsWellFormed) :
    readUnsigned? m.text = some (nearest m.number) := by
  unfold readUnsigned?
  simp only [take_text h.whole h.fraction h.point, h.hasDigit, if_true, List.drop_length, numeralValue_eq_nearest h]

end Mantissa

/-! ## Positional notation -/

namespace Decimal

/-- The number that a decimal writes. -/
def number (d : Decimal) : ℚ := d.digits * 10 ^ d.power

theorem value_eq_nearest (d : Decimal) : d.value = nearest d.number :=
  scaled_eq_nearest d.power ((Nat.length_toDigits_le_iff (by decide) Nat.length_toDigits_pos).mp le_rfl)

/-- Digits without their trailing zeros, and then these. -/
theorem take_append_zeros (cs : List Char) :
    cs.take (cs.length - (cs.reverse.takeWhile (· == '0')).length) ++
      List.replicate (cs.reverse.takeWhile (· == '0')).length '0' = cs := by
  have hsplit := List.takeWhile_append_dropWhile (p := (· == '0')) (l := cs.reverse)
  have hzeros : cs.reverse.takeWhile (· == '0') =
      List.replicate (cs.reverse.takeWhile (· == '0')).length '0' := by
    refine List.eq_replicate_of_mem fun c hc => ?_
    simpa using List.mem_takeWhile_imp hc
  generalize (cs.reverse.takeWhile (· == '0')).length = z at hzeros ⊢
  rw [hzeros] at hsplit
  have hcs : cs = (cs.reverse.dropWhile (· == '0')).reverse ++ List.replicate z '0' := by
    have hreverse := congrArg List.reverse hsplit
    rwa [List.reverse_append, List.reverse_replicate, List.reverse_reverse, eq_comm] at hreverse
  generalize (cs.reverse.dropWhile (· == '0')).reverse = front at hcs
  subst hcs
  rw [List.length_append, List.length_replicate, Nat.add_sub_cancel, List.take_left]

/-- The digits of a decimal without trailing zeros, and the number that they write. -/
theorem significant_digits {d : Decimal} (hd : 0 < d.digits) {zeros : Nat} {digits : List Char}
    (hzeros : zeros = ((Nat.toDigits 10 d.digits).reverse.takeWhile (· == '0')).length)
    (hdigits : digits = (Nat.toDigits 10 d.digits).take (digitCount d.digits - zeros)) :
    IsDigits digits ∧ digits ≠ [] ∧ d.number = digitsValue digits * 10 ^ (d.power + zeros) := by
  have hall : digits ++ List.replicate zeros '0' = Nat.toDigits 10 d.digits := by
    subst hdigits hzeros
    exact take_append_zeros _
  have hvalue : d.digits = 10 ^ zeros * digitsValue digits := by
    rw [← digitsValue_toDigits d.digits, ← hall, digitsValue_append, digitsValue_zeros,
      List.length_replicate, Nat.add_zero]
  refine ⟨fun c hc => isDigits_toDigits d.digits c ?_, ?_, ?_⟩
  · exact hall ▸ List.mem_append_left _ hc
  · rintro rfl
    exact hd.ne' (hvalue.trans (Nat.mul_zero _))
  · rw [number, zpow_add₀ (by norm_num), zpow_natCast]
    nth_rewrite 1 [hvalue]
    push_cast
    ring

/-- **Positional notation writes the same number.** -/
theorem exists_positional_eq_text {d : Decimal} (hd : 0 < d.digits) :
    ∃ m : Mantissa, d.positional = m.text ∧ m.IsWellFormed ∧ m.number = d.number := by
  unfold positional
  dsimp only
  generalize hzeros : ((Nat.toDigits 10 d.digits).reverse.takeWhile (· == '0')).length = zeros
  generalize hdigits : (Nat.toDigits 10 d.digits).take (digitCount d.digits - zeros) = digits
  obtain ⟨hrun, hne, hnumber⟩ := significant_digits hd hzeros.symm hdigits.symm
  rw [hnumber]
  generalize d.power + (zeros : ℤ) = power
  by_cases hpower : 0 ≤ power
  · -- zeros behind the digits
    obtain ⟨k, rfl⟩ := Int.eq_ofNat_of_zero_le hpower
    rw [if_pos hpower, Int.toNat_natCast]
    refine ⟨⟨digits ++ List.replicate k '0', false, []⟩, by simp [Mantissa.text],
      ⟨hrun.append (isDigits_zeros k), fun c hc => absurd hc List.not_mem_nil, fun _ => rfl, ?_⟩, ?_⟩
    · simp [Mantissa.hasDigit, hne]
    · unfold Mantissa.number
      rw [List.append_nil, digitsValue_append, digitsValue_zeros, List.length_replicate]
      push_cast
      simp [mul_comm]
  · obtain ⟨places, rfl⟩ := Int.exists_eq_neg_ofNat (by omega : power ≤ 0)
    rw [if_neg hpower, Int.natAbs_neg, Int.natAbs_natCast]
    by_cases hplaces : places < digits.length
    · -- the point between the digits
      rw [if_pos hplaces]
      refine ⟨⟨digits.take (digits.length - places), true, digits.drop (digits.length - places)⟩,
        by simp [Mantissa.text],
        ⟨fun c hc => hrun c (List.mem_of_mem_take hc), fun c hc => hrun c (List.mem_of_mem_drop hc),
          fun h => (Bool.noConfusion h), ?_⟩, ?_⟩
      · have hwhole : digits.take (digits.length - places) ≠ [] := by
          rw [← List.length_pos_iff, List.length_take]
          omega
        simp [Mantissa.hasDigit, hwhole]
      · unfold Mantissa.number
        have hlength : (digits.drop (digits.length - places)).length = places := by
          rw [List.length_drop]
          omega
        rw [List.take_append_drop, hlength]
    · -- zeros between the point and the digits
      rw [if_neg hplaces]
      refine ⟨⟨['0'], true, List.replicate (places - digits.length) '0' ++ digits⟩,
        by simp [Mantissa.text],
        ⟨isDigits_zeros 1, (isDigits_zeros _).append hrun, fun h => (Bool.noConfusion h), rfl⟩, ?_⟩
      unfold Mantissa.number
      have hlength : (List.replicate (places - digits.length) '0' ++ digits).length = places := by
        rw [List.length_append, List.length_replicate]
        omega
      have hvalue : digitsValue (['0'] ++ (List.replicate (places - digits.length) '0' ++ digits)) =
          digitsValue digits := by
        have hzero : digitsValue ['0'] = 0 := rfl
        rw [digitsValue_append, digitsValue_append, digitsValue_zeros, hzero, Nat.mul_zero,
          Nat.mul_zero, Nat.zero_add, Nat.zero_add]
      rw [hlength, hvalue]

end Decimal

end Tabular
