import Tabular.Cell
import Tabular.Proofs.Decimal.Positional

set_option autoImplicit false

/-! # Numbers read back from their texts

A number is written with the shortest decimal that reads back as the same double, or with its exact
expansion; on either way the decimal is nearest to this double (`Decimal.nearest_shortest`). Since
positional notation writes the decimal and reading gives the nearest double, the text of every
finite number is parsed to the number itself (`parseNumber_showNumber`), the zero with a minus sign
included. The text of an integer is parsed to the double nearest to the integer
(`parseNumber_showInteger`).
-/

namespace Tabular

open Float.Model (UnpackedFloat)
open Float.Model.UnpackedFloat (Sign)

/-! ## The fraction of a double -/

/-- The fraction of a finite double has the significand and the power of two of its decoded form. -/
theorem Fraction.ofFloat_of_unpack {v : Float} {s : Sign} {m : Nat} {e : ℤ} {hm : 0 < m}
    (h : v.toModel.unpack = .finite s m e hm) :
    ofFloat v = if 0 ≤ e then ⟨m <<< e.toNat, 1⟩ else ⟨m, 1 <<< (-e).toNat⟩ := by
  have hcanonical : IsCanonical (.finite s m e hm) := h ▸ isCanonical_unpack v.toModel
  have hbits := toBits_of_unpack h
  have hunit : 1 <<< 52 = 2 ^ 52 := rfl
  have hsign : s.toBitVec.toNat ≤ 1 := by cases s <;> decide
  unfold ofFloat
  simp only [hunit]
  cases hcanonical with
  | subnormal _ _ hlt =>
      rw [pack_subnormal s hm hlt, toNat_packed] at hbits
      have hmantissa : (BitVec.ofNat 52 m).toNat = m := Nat.mod_eq_of_lt hlt
      have hzero : (0#11).toNat = 0 := rfl
      have hfield : v.toBits.toNat / 2 ^ 52 % 2048 = 0 := by omega
      have hlow : v.toBits.toNat % 2 ^ 52 = m := by omega
      rw [hfield, hlow]
      rfl
  | normal _ _ hfull hlt hlower hupper =>
      rw [pack_normal s hm hfull hlt hlower hupper, toNat_packed] at hbits
      have hexponent : (BitVec.ofNat 11 (e + 1075).toNat).toNat = (e + 1075).toNat :=
        Nat.mod_eq_of_lt (by omega)
      have hmantissa : (BitVec.ofNat 52 m).toNat = m - 2 ^ 52 := by
        rw [BitVec.toNat_ofNat]
        omega
      have hfield : v.toBits.toNat / 2 ^ 52 % 2048 = (e + 1075).toNat := by omega
      have hlow : 2 ^ 52 + v.toBits.toNat % 2 ^ 52 = m := by omega
      have hpos : ¬ (e + 1075).toNat = 0 := by omega
      rw [hfield, if_neg hpos, hlow, max_eq_left (by omega)]
      by_cases he : 0 ≤ e
      · rw [if_pos he, if_pos (by omega), show (e + 1075).toNat - 1075 = e.toNat by omega]
      · rw [if_neg he, if_neg (by omega), show 1075 - (e + 1075).toNat = (-e).toNat by omega]

/-! ## The shortest decimal -/

/-- Two doubles that compare equal are equal, if one of them is not zero. -/
theorem eq_of_beq_of_unpack {v w : Float} {m : Nat} {e : ℤ} {hm : 0 < m}
    (hv : v.toModel.unpack = .finite .positive m e hm) (h : (w == v) = true) : w = v := by
  have hcompare : w.toModel.unpack.compare v.toModel.unpack = some .eq := eq_of_beq h
  rcases eq_or_zero_of_compare hcompare with heq | ⟨-, s, hs⟩
  · exact eq_of_unpack heq
  · rw [hv] at hs
    cases hs

namespace Decimal

theorem value_of_nearest? {v : Float} {q : Fraction} {count : Nat} {d : Decimal}
    (h : nearest? v q count = some d) : (d.value == v) = true := by
  unfold nearest? at h
  dsimp only at h
  split at h
  · next hlow hnext =>
      split at h
      · cases h
        exact hlow
      · cases h
        exact hnext
  · next hlow _ =>
      cases h
      exact hlow
  · next _ hnext =>
      cases h
      exact hnext
  · cases h

variable {v : Float} {m : Nat} {e : ℤ} {hm : 0 < m}

/-- The exact expansion of a double writes the number that it holds. -/
theorem number_exact (h : v.toModel.unpack = .finite .positive m e hm) :
    (exact (Fraction.ofFloat v)).number = m * 2 ^ e := by
  rw [Fraction.ofFloat_of_unpack h]
  by_cases he : 0 ≤ e
  · obtain ⟨k, rfl⟩ := Int.eq_ofNat_of_zero_le he
    have hplaces : Nat.log2 1 = 0 := rfl
    rw [if_pos he, Int.toNat_natCast, exact, number, Nat.shiftLeft_eq, zpow_natCast, hplaces]
    simp
  · obtain ⟨k, rfl⟩ := Int.exists_eq_neg_ofNat (by omega : e ≤ 0)
    rw [if_neg he, neg_neg, Int.toNat_natCast, exact, number, Nat.one_shiftLeft, Nat.log2_two_pow,
      zpow_neg, zpow_neg, zpow_natCast, zpow_natCast]
    have hten : (10 : ℚ) ^ k = 2 ^ k * 5 ^ k := by rw [← mul_pow]; norm_num
    have hfive : Nat.pow 5 k = 5 ^ k := rfl
    rw [hten, hfive]
    push_cast
    field_simp

/-- **The shortest decimal of a double gives it back.** -/
theorem nearest_shortest (h : v.toModel.unpack = .finite .positive m e hm) :
    nearest (shortest v).number = v := by
  unfold shortest
  dsimp only
  cases hfind : (List.range' 1 17).findSome? (nearest? v (Fraction.ofFloat v)) with
  | none => rw [Option.getD_none, number_exact h, nearest_of_unpack h]
  | some d =>
      obtain ⟨count, -, hcount⟩ := List.exists_of_findSome?_eq_some hfind
      rw [Option.getD_some, ← value_eq_nearest]
      exact eq_of_beq_of_unpack h (value_of_nearest? hcount)

theorem digits_shortest_pos (h : v.toModel.unpack = .finite .positive m e hm) :
    0 < (shortest v).digits := by
  by_contra hzero
  have hnumber : (shortest v).number = 0 := by
    rw [number, Nat.eq_zero_of_not_pos hzero, Nat.cast_zero, zero_mul]
  have hv := nearest_shortest h
  rw [hnumber, nearest_zero] at hv
  subst hv
  cases h

end Decimal

/-! ## The text of a number -/

/-- The text of an unsigned finite double is read as the double. -/
theorem readUnsigned?_showMagnitude {v : Float} (hfinite : v.isFinite = true)
    (hsign : HasSign .positive v.toModel.unpack) : readUnsigned? (showMagnitude v) = some v := by
  have hzero : readUnsigned? ['0'] = some 0 := by
    have hread := Mantissa.readUnsigned?_text (m := ⟨['0'], false, []⟩)
      ⟨isDigits_zeros 1, fun c hc => absurd hc List.not_mem_nil, fun _ => rfl, rfl⟩
    have hnumber : (⟨['0'], false, []⟩ : Mantissa).number = 0 := by
      have hdigits : digitsValue (['0'] ++ []) = 0 := rfl
      rw [Mantissa.number, hdigits, Nat.cast_zero, zero_mul]
    rw [hnumber, nearest_zero] at hread
    exact hread
  unfold showMagnitude
  have hunpack : v.toModel.unpack.isFinite = true := hfinite
  cases hv : v.toModel.unpack with
  | notANumber => rw [hv] at hunpack; cases hunpack
  | infinity s => rw [hv] at hunpack; cases hunpack
  | zero s =>
      rw [hv] at hsign
      obtain rfl : s = .positive := hsign
      obtain rfl : v = 0 := eq_of_unpack hv
      exact hzero
  | finite s m e hm =>
      rw [hv] at hsign
      obtain rfl : s = .positive := hsign
      have hinf : v.isInf = false := by
        show v.toModel.unpack.isInf = false
        rw [hv]
        rfl
      have hne : (v == 0) = false := by
        show (v.toModel.unpack.compare (0 : Float).toModel.unpack == some .eq) = false
        rw [hv]
        rfl
      rw [hinf, hne]
      simp only [Bool.false_eq_true, if_false]
      obtain ⟨m', htext, hformed, hnumber⟩ :=
        Decimal.exists_positional_eq_text (Decimal.digits_shortest_pos hv)
      rw [htext, Mantissa.readUnsigned?_text hformed, hnumber, Decimal.nearest_shortest hv]

/-- **The text of a finite number reads back.** -/
theorem readDecimal?_showNumber {v : Float} (hfinite : v.isFinite = true) :
    readDecimal? (showNumber v).toList = some v := by
  have hsign := hasSign_of_hasMinus v
  have hnan := isNaN_of_isFinite hfinite
  cases hminus : hasMinus v with
  | false =>
      have hplain := isPlain_showNumber hfinite hminus
      have hshow : (showNumber v).toList = showMagnitude v := by
        simp only [showNumber, hnan, hminus, Bool.false_eq_true, if_false, String.toList_ofList]
      rw [hminus, if_neg (by decide)] at hsign
      rw [readDecimal?_of_plain hplain, hshow, readUnsigned?_showMagnitude hfinite hsign]
  | true =>
      have hshow : (showNumber v).toList = '-' :: showMagnitude (-v) := by
        simp only [showNumber, hnan, hminus, Bool.false_eq_true, if_false, if_true,
          String.toList_ofList]
      have hfinite' : (-v).isFinite = true := (isFinite_neg v).trans hfinite
      rw [hminus, if_pos rfl] at hsign
      have hsign' : HasSign .positive (-v).toModel.unpack := by
        rw [unpack_neg]
        exact hsign.neg
      rw [hshow, readDecimal?, readUnsigned?_showMagnitude hfinite' hsign', Option.map_some,
        neg_neg_float]

/-- A text without blanks is read as it stands. -/
theorem parseNumber_of_readDecimal? {s : String} {v : Float}
    (hblank : ∀ c ∈ s.toList, isBlank c = false) (hread : readDecimal? s.toList = some v)
    (hfinite : v.isFinite = true) : parseNumber s = some v := by
  have htrim : trim s.toList = s.toList :=
    trim_of_ends (fun c hc => hblank c (List.mem_of_mem_head? hc))
      (fun c hc => hblank c (List.mem_of_mem_getLast? hc))
  rw [parseNumber, htrim, hread, Option.filter_some_pos hfinite]

/-- **A finite number is what its text is parsed to.** -/
theorem parseNumber_showNumber {v : Float} (hfinite : v.isFinite = true) :
    parseNumber (showNumber v) = some v := by
  refine parseNumber_of_readDecimal? (fun c hc => ?_) (readDecimal?_showNumber hfinite) hfinite
  have hshow : c = '-' ∨ c.isDigit = true ∨ c = '.' := by
    cases hminus : hasMinus v with
    | false => exact .inr (isPlain_showNumber hfinite hminus c hc)
    | true =>
        have hfinite' : (-v).isFinite = true := (isFinite_neg v).trans hfinite
        simp only [showNumber, isNaN_of_isFinite hfinite, hminus, Bool.false_eq_true, if_false,
          if_true, String.toList_ofList] at hc
        rcases List.mem_cons.mp hc with rfl | hrest
        · exact .inl rfl
        · exact .inr (isPlain_showMagnitude hfinite' c hrest)
  rcases hshow with rfl | hplain
  · rfl
  · exact isBlank_of_plain hplain

/-! ## Integers -/

/-- The digits of a natural number are read as the nearest double. -/
theorem readUnsigned?_toDigits (n : Nat) :
    readUnsigned? (Nat.toDigits 10 n) = some (nearest n) := by
  have hread := Mantissa.readUnsigned?_text (m := ⟨Nat.toDigits 10 n, false, []⟩)
    ⟨isDigits_toDigits n, fun c hc => absurd hc List.not_mem_nil, fun _ => rfl,
      by simp [Mantissa.hasDigit, Nat.toDigits_ne_nil]⟩
  have hnumber : (⟨Nat.toDigits 10 n, false, []⟩ : Mantissa).number = n := by
    simp [Mantissa.number, digitsValue_toDigits]
  rw [hnumber] at hread
  simpa [Mantissa.text] using hread

theorem integerValue_eq (i : Int) :
    integerValue i = if i < 0 then -nearest i.natAbs else nearest i.natAbs := by
  have hmagnitude : scaled i.natAbs 0 (digitCount i.natAbs) = nearest i.natAbs := by
    have hvalue := Decimal.value_eq_nearest ⟨i.natAbs, 0⟩
    rwa [Decimal.number, zpow_zero, mul_one] at hvalue
  rw [integerValue, hmagnitude]

/-- The double nearest to an integer of 64 bits is finite. -/
theorem isFinite_integerValue {i : Int} (hlower : -2 ^ 63 ≤ i) (hupper : i < 2 ^ 63) :
    (integerValue i).isFinite = true := by
  have hlt : (i.natAbs : ℚ) < 2 ^ (1023 : ℤ) := by
    have hnat : i.natAbs < 2 ^ 64 := by omega
    calc (i.natAbs : ℚ) < 2 ^ (64 : ℤ) := by exact_mod_cast hnat
      _ ≤ 2 ^ (1023 : ℤ) := zpow_le_zpow_right₀ one_le_two (by decide)
  have hnearest := isFinite_nearest (Nat.cast_nonneg i.natAbs) hlt
  rw [integerValue_eq]
  split
  · rwa [isFinite_neg]
  · exact hnearest

/-- **An integer in decimal is parsed to the double nearest to it.** -/
theorem parseNumber_showInteger {i : Int} (hlower : -2 ^ 63 ≤ i) (hupper : i < 2 ^ 63) :
    parseNumber (showInteger i) = some (integerValue i) := by
  have hdigits := isPlain_toDigits i.natAbs
  refine parseNumber_of_readDecimal? (fun c hc => ?_) ?_ (isFinite_integerValue hlower hupper)
  · rw [showInteger, String.toList_ofList] at hc
    rcases List.mem_append.mp hc with hsign | hdigit
    · split at hsign
      · obtain rfl := List.mem_singleton.mp hsign
        rfl
      · cases hsign
    · exact isBlank_of_plain (hdigits c hdigit)
  · rw [showInteger, String.toList_ofList, integerValue_eq]
    by_cases hneg : i < 0
    · rw [if_pos hneg, if_pos hneg, List.singleton_append, readDecimal?, readUnsigned?_toDigits]
      rfl
    · rw [if_neg hneg, if_neg hneg, List.nil_append, readDecimal?_of_plain hdigits,
        readUnsigned?_toDigits]

end Tabular
