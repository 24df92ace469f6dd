import Tabular.Proofs.Decimal.Sign

set_option autoImplicit false

/-! # Packing and unpacking doubles

A double is packed into 64 bits: one for the sign, eleven for the exponent and 52 for the
significand. Unpacking splits them again, and puts back the leading digit of the significand that
is left out unless the exponent is the smallest. The two are inverse to each other: what a double
unpacks to is canonical and packs to the double (`pack_unpack`), and what is canonical unpacks from
what it packs to (`IsCanonical.unpack_pack`). So a double is known by its decoded form. The sign
of a double stands in its first bit (`hasSign_of_hasMinus`), and only the two zeros compare as equal
without being the same (`eq_or_zero_of_compare`).
-/

namespace Tabular

open Float.Model (UnpackedFloat Format)
open Float.Model.UnpackedFloat (Sign)

/-! ## Components -/

/-- The bits of a double with the given components. -/
abbrev packed (s : Sign) (exponent : BitVec 11) (mantissa : BitVec 52) :
    BitVec Format.binary64.numBits :=
  UnpackedFloat.packComponents .binary64 s exponent mantissa

theorem toBitVec_ofBitVec (b : BitVec 1) : (Sign.ofBitVec b).toBitVec = b := by
  revert b
  decide

theorem sign_packed (s : Sign) (exponent : BitVec 11) (mantissa : BitVec 52) :
    Sign.ofBitVec (UnpackedFloat.unpackSign (packed s exponent mantissa)) = s := by
  rw [packed, UnpackedFloat.unpackSign_packComponents]
  cases s <;> rfl

/-- Every pattern of 64 bits has components. -/
theorem eq_packed (b : BitVec Format.binary64.numBits) :
    ∃ s exponent mantissa, b = packed s exponent mantissa := by
  refine ⟨Sign.ofBitVec (UnpackedFloat.unpackSign b), UnpackedFloat.unpackExponent b,
    UnpackedFloat.unpackMantissa b, ?_⟩
  rw [packed, UnpackedFloat.packComponents, toBitVec_ofBitVec]
  apply BitVec.eq_of_getLsbD_eq
  intro i hi
  have hlt : i < 64 := hi
  simp only [UnpackedFloat.unpackSign, UnpackedFloat.unpackExponent, UnpackedFloat.unpackMantissa,
    BitVec.getLsbD_append, BitVec.getLsbD_cast, BitVec.getLsbD_extractLsb]
  by_cases hmantissa : i < 52
  · simp [hmantissa]
  · by_cases hexponent : i < 63
    · have hplace : 52 + (i - 52) = i := by omega
      have hfield : i - 52 < 11 := by omega
      simp [hmantissa, hplace, hfield]
    · obtain rfl : i = 63 := by omega
      rfl

/-! ## Finite numbers -/

section

variable (s : Sign)

/-- The leading digit of a significand stands before 52 others. -/
theorem toNat_append_one (b : BitVec 52) : (1#1 ++ b).toNat = 2 ^ 52 + b.toNat := by
  rw [BitVec.toNat_append, ← Nat.shiftLeft_add_eq_or_of_lt b.isLt]
  rfl

/-- With the smallest exponent, the significand is unpacked as it stands. -/
theorem unpack_subnormal {mantissa : BitVec 52} (hm : 0 < mantissa.toNat) :
    UnpackedFloat.unpack .binary64 (packed s 0#11 mantissa) =
      .finite s mantissa.toNat (-1074) hm := by
  have hmantissa : mantissa ≠ 0#52 := by
    rintro rfl
    exact absurd hm (by decide)
  have hmax : ¬ 0#11 = -1#11 := by decide
  rw [UnpackedFloat.unpack]
  dsimp only
  rw [sign_packed]
  simp only [packed, UnpackedFloat.unpackExponent_packComponents,
    UnpackedFloat.unpackMantissa_packComponents]
  rw [if_neg hmax, if_pos trivial, dif_neg hmantissa]
  rfl

/-- With any other exponent, the significand has its leading digit put back. -/
theorem unpack_normal {exponent : BitVec 11} (mantissa : BitVec 52)
    (hzero : exponent ≠ 0#11) (hmax : exponent ≠ -1#11) :
    UnpackedFloat.unpack .binary64 (packed s exponent mantissa) =
      .finite s (2 ^ 52 + mantissa.toNat) (exponent.toNat - 1075) (by omega) := by
  rw [UnpackedFloat.unpack]
  dsimp only
  rw [sign_packed]
  simp only [packed, UnpackedFloat.unpackExponent_packComponents,
    UnpackedFloat.unpackMantissa_packComponents]
  rw [if_neg hmax, if_neg hzero]
  simp only [toNat_append_one]
  rfl

theorem pack_subnormal {m : Nat} (hm : 0 < m) (hlt : m < 2 ^ 52) :
    UnpackedFloat.pack .binary64 (.finite s m (-1074) hm) = packed s 0#11 (BitVec.ofNat 52 m) := by
  have hlog : ¬ m.log2 + 1 = Format.binary64.mantissaBits := by
    have hshort : m.log2 < 52 := (Nat.log2_lt hm.ne').mpr hlt
    have hbits : Format.binary64.mantissaBits = 53 := rfl
    omega
  rw [UnpackedFloat.pack]
  dsimp only
  rw [if_neg (by decide), if_neg hlog]

theorem pack_normal {m : Nat} {e : Int} (hm : 0 < m) (hfull : 2 ^ 52 ≤ m) (hlt : m < 2 ^ 53)
    (hlower : -1074 ≤ e) (hupper : e ≤ 971) :
    UnpackedFloat.pack .binary64 (.finite s m e hm) =
      packed s (BitVec.ofNat 11 (e + 1075).toNat) (BitVec.ofNat 52 m) := by
  have hlog : m.log2 + 1 = Format.binary64.mantissaBits := by
    rw [(Nat.log2_eq_iff hm.ne').mpr ⟨hfull, hlt⟩]
    rfl
  have hbiased : (e + Format.binary64.exponentBias + (52 : Nat)).toNat = (e + 1075).toNat := by
    have hbias : (Format.binary64.exponentBias : Int) = 1023 := rfl
    omega
  have hfits : ¬ 2 ^ 11 ≤ (e + 1075).toNat + 1 := by omega
  rw [UnpackedFloat.pack]
  dsimp only
  rw [hbiased, if_neg hfits, if_pos hlog]

end

/-! ## Canonical forms -/

/-- A decoded double is **canonical** when a significand with fewer than 53 digits has the smallest
exponent. -/
inductive IsCanonical : UnpackedFloat → Prop
  | notANumber : IsCanonical .notANumber
  | infinity (s : Sign) : IsCanonical (.infinity s)
  | zero (s : Sign) : IsCanonical (.zero s)
  | subnormal (s : Sign) {m : Nat} (hm : 0 < m) (hlt : m < 2 ^ 52) :
    IsCanonical (.finite s m (-1074) hm)
  | normal (s : Sign) {m : Nat} {e : Int} (hm : 0 < m) (hfull : 2 ^ 52 ≤ m) (hlt : m < 2 ^ 53)
    (hlower : -1074 ≤ e) (hupper : e ≤ 971) : IsCanonical (.finite s m e hm)

/-- The bounds of a canonical number. -/
theorem IsCanonical.bounds {s : Sign} {m : Nat} {e : Int} {hm : 0 < m}
    (h : IsCanonical (.finite s m e hm)) :
    m < 2 ^ 53 ∧ -1074 ≤ e ∧ e ≤ 971 ∧ (2 ^ 52 ≤ m ∨ e = -1074) := by
  cases h with
  | subnormal => exact ⟨by omega, by decide, by decide, .inr rfl⟩
  | normal _ _ hfull hlt hlower hupper => exact ⟨hlt, hlower, hupper, .inl hfull⟩

/-- What has the bounds of a canonical number is one. -/
theorem isCanonical_of_bounds {m : Nat} {e : Int} (s : Sign) (hm : 0 < m) (hlt : m < 2 ^ 53)
    (hlower : -1074 ≤ e) (hupper : e ≤ 971) (hfull : 2 ^ 52 ≤ m ∨ e = -1074) :
    IsCanonical (.finite s m e hm) := by
  by_cases h : 2 ^ 52 ≤ m
  · exact .normal s hm h hlt hlower hupper
  · obtain rfl := hfull.resolve_left h
    exact .subnormal s hm (by omega)

/-- Changing the sign keeps a canonical form. -/
theorem IsCanonical.neg {u : UnpackedFloat} (h : IsCanonical u) : IsCanonical u.neg := by
  cases h with
  | notANumber => exact .notANumber
  | infinity s => exact .infinity _
  | zero s => exact .zero _
  | subnormal s hm hlt => exact .subnormal _ hm hlt
  | normal s hm hfull hlt hlower hupper => exact .normal _ hm hfull hlt hlower hupper

/-- **What is canonical unpacks from what it packs to.** -/
theorem IsCanonical.unpack_pack {u : UnpackedFloat} (h : IsCanonical u) :
    (Float.Model.pack u).unpack = u := by
  show UnpackedFloat.unpack .binary64 (UnpackedFloat.pack .binary64 u) = u
  cases h with
  | notANumber => rfl
  | infinity s => cases s <;> rfl
  | zero s => cases s <;> rfl
  | @subnormal s m hm hlt =>
      have hvalue : (BitVec.ofNat 52 m).toNat = m := Nat.mod_eq_of_lt hlt
      rw [pack_subnormal s hm hlt, unpack_subnormal s (hvalue.symm ▸ hm)]
      simp only [hvalue]
  | @normal s m e hm hfull hlt hlower hupper =>
      have hexponent : (BitVec.ofNat 11 (e + 1075).toNat).toNat = (e + 1075).toNat :=
        Nat.mod_eq_of_lt (by omega)
      have hvalue : 2 ^ 52 + (BitVec.ofNat 52 m).toNat = m := by
        rw [BitVec.toNat_ofNat]
        omega
      have hbiased : ((e + 1075).toNat : Int) - 1075 = e := by omega
      have hzero : BitVec.ofNat 11 (e + 1075).toNat ≠ 0#11 := by
        intro heq
        rw [heq] at hexponent
        have : (0#11).toNat = 0 := rfl
        omega
      have hmax : BitVec.ofNat 11 (e + 1075).toNat ≠ -1#11 := by
        intro heq
        rw [heq] at hexponent
        have : (-1#11).toNat = 2047 := rfl
        omega
      rw [pack_normal s hm hfull hlt hlower hupper, unpack_normal s _ hzero hmax]
      simp only [hvalue, hexponent, hbiased]

/-- A double unpacks to a canonical form, and packs again from it. -/
theorem isCanonical_unpack_and_pack_unpack {b : BitVec Format.binary64.numBits}
    (hvalid : Format.binary64.Valid b) :
    IsCanonical (UnpackedFloat.unpack .binary64 b) ∧
      UnpackedFloat.pack .binary64 (UnpackedFloat.unpack .binary64 b) = b := by
  obtain ⟨s, exponent, mantissa, rfl⟩ := eq_packed b
  have hlt : mantissa.toNat < 2 ^ 52 := mantissa.isLt
  have hbits : exponent.toNat < 2 ^ 11 := exponent.isLt
  by_cases hmax : exponent = -1#11
  · subst hmax
    by_cases hmantissa : mantissa = 0#52
    · subst hmantissa
      have hunpack : UnpackedFloat.unpack .binary64 (packed s (-1#11) 0#52) = .infinity s := by
        cases s <;> rfl
      rw [hunpack]
      exact ⟨.infinity s, rfl⟩
    · have hnan := hvalid.eq_packedNaN UnpackedFloat.unpackExponent_packComponents
        (by rwa [packed, UnpackedFloat.unpackMantissa_packComponents])
      rw [hnan]
      exact ⟨.notANumber, rfl⟩
  · by_cases hzero : exponent = 0#11
    · subst hzero
      by_cases hmantissa : mantissa = 0#52
      · subst hmantissa
        have hunpack : UnpackedFloat.unpack .binary64 (packed s 0#11 0#52) = .zero s := by
          cases s <;> rfl
        rw [hunpack]
        exact ⟨.zero s, rfl⟩
      · have hm : 0 < mantissa.toNat :=
          Nat.pos_of_ne_zero fun heq => hmantissa (BitVec.eq_of_toNat_eq heq)
        rw [unpack_subnormal s hm]
        refine ⟨.subnormal s hm hlt, ?_⟩
        rw [pack_subnormal s hm hlt, BitVec.ofNat_toNat, BitVec.setWidth_eq]
    · have hpos : exponent.toNat ≠ 0 := fun heq => hzero (BitVec.eq_of_toNat_eq heq)
      have hnotmax : exponent.toNat ≠ 2047 := fun heq => hmax (BitVec.eq_of_toNat_eq heq)
      have hexponent : BitVec.ofNat 11 ((exponent.toNat : Int) - 1075 + 1075).toNat = exponent := by
        apply BitVec.eq_of_toNat_eq
        rw [BitVec.toNat_ofNat]
        omega
      have hmantissa : BitVec.ofNat 52 (2 ^ 52 + mantissa.toNat) = mantissa := by
        apply BitVec.eq_of_toNat_eq
        rw [BitVec.toNat_ofNat]
        omega
      rw [unpack_normal s mantissa hzero hmax]
      refine ⟨.normal s _ (by omega) (by omega) (by omega) (by omega), ?_⟩
      rw [pack_normal s _ (by omega) (by omega) (by omega) (by omega), hexponent, hmantissa]

theorem isCanonical_unpack (v : Float.Model) : IsCanonical v.unpack :=
  (isCanonical_unpack_and_pack_unpack v.valid).1

/-- **A double is packed again** from what it unpacks to. -/
theorem pack_unpack (v : Float.Model) : .pack v.unpack = v := by
  obtain ⟨bits, hvalid⟩ := v
  have hpack := (isCanonical_unpack_and_pack_unpack hvalid).2
  simp only [Float.Model.pack, Float.Model.unpack, hpack]

/-! ## Doubles -/

/-- A double is known by its decoded form. -/
theorem eq_of_unpack {v w : Float} (h : v.toModel.unpack = w.toModel.unpack) : v = w := by
  have hmodel : v.toModel = w.toModel := by rw [← pack_unpack v.toModel, h, pack_unpack]
  cases v
  cases w
  exact congrArg Float.ofModel hmodel

theorem unpack_neg (v : Float) : (-v).toModel.unpack = v.toModel.unpack.neg :=
  (isCanonical_unpack v.toModel).neg.unpack_pack

theorem isFinite_neg (v : Float) : (-v).isFinite = v.isFinite := by
  show (-v).toModel.unpack.isFinite = v.toModel.unpack.isFinite
  rw [unpack_neg]
  cases v.toModel.unpack <;> rfl

/-- Changing the sign twice changes nothing. -/
theorem neg_neg_float (v : Float) : - -v = v := by
  apply eq_of_unpack
  rw [unpack_neg, unpack_neg]
  cases v.toModel.unpack with
  | notANumber => rfl
  | infinity s | zero s | finite s m e hm => cases s <;> rfl

/-! ## The bits of a double -/

/-- The place of each component among the bits. -/
theorem toNat_packed (s : Sign) (exponent : BitVec 11) (mantissa : BitVec 52) :
    (packed s exponent mantissa).toNat =
      s.toBitVec.toNat * 2 ^ 63 + exponent.toNat * 2 ^ 52 + mantissa.toNat := by
  have hexponent := exponent.isLt
  have hmantissa := mantissa.isLt
  rw [packed, UnpackedFloat.packComponents, BitVec.toNat_append, BitVec.toNat_append,
    ← Nat.shiftLeft_add_eq_or_of_lt hmantissa, ← Nat.shiftLeft_add_eq_or_of_lt hexponent,
    Nat.shiftLeft_eq, Nat.shiftLeft_eq]
  ring

theorem toBits_of_unpack {v : Float} {u : UnpackedFloat} (h : v.toModel.unpack = u) :
    v.toBits.toNat = (UnpackedFloat.pack .binary64 u).toNat := by
  subst h
  show v.toModel.toBits.toNat = (Float.Model.pack v.toModel.unpack).toBits.toNat
  rw [pack_unpack]

/-! ## Signs -/

/-- A decoded double has a sign. Not-a-number has both. -/
def HasSign (s : Sign) : UnpackedFloat → Prop
  | .infinity s' | .zero s' | .finite s' _ _ _ => s' = s
  | .notANumber => True

theorem HasSign.neg {s : Sign} {u : UnpackedFloat} (h : HasSign s u) : HasSign (-s) u.neg := by
  cases u with
  | notANumber => trivial
  | infinity s' | zero s' | finite s' m e hm =>
      obtain rfl : s' = s := h
      rfl

theorem hasSign_unpack (b : BitVec Format.binary64.numBits) :
    HasSign (Sign.ofBitVec (UnpackedFloat.unpackSign b)) (UnpackedFloat.unpack .binary64 b) := by
  unfold UnpackedFloat.unpack
  dsimp only
  split
  · split
    · rfl
    · trivial
  · split
    · split <;> rfl
    · rfl

/-- The sign of a double is in its first bit. -/
theorem hasSign_of_hasMinus (v : Float) :
    HasSign (if hasMinus v then .negative else .positive) v.toModel.unpack := by
  have hsign := hasSign_unpack v.toModel.toBits.toBitVec
  obtain ⟨s, exponent, mantissa, hbits⟩ := eq_packed v.toModel.toBits.toBitVec
  have hvalue : v.toBits.toNat = _ :=
    (congrArg BitVec.toNat hbits).trans (toNat_packed s exponent mantissa)
  have hexponent : exponent.toNat < 2 ^ 11 := exponent.isLt
  have hmantissa : mantissa.toNat < 2 ^ 52 := mantissa.isLt
  have hshift : (v.toBits >>> 63).toNat = s.toBitVec.toNat := by
    rw [UInt64.toNat_shiftRight, Nat.shiftRight_eq_div_pow]
    show v.toBits.toNat / 2 ^ 63 = _
    omega
  have hminus : (if hasMinus v then Sign.negative else Sign.positive) = s := by
    unfold hasMinus
    cases s with
    | negative =>
        obtain hone : v.toBits >>> 63 = 1 := UInt64.toNat_inj.mp hshift
        rw [hone]
        rfl
    | positive =>
        obtain hzero : v.toBits >>> 63 = 0 := UInt64.toNat_inj.mp hshift
        rw [hzero]
        rfl
  rw [hbits, sign_packed] at hsign
  rw [hminus]
  show HasSign s (UnpackedFloat.unpack .binary64 v.toModel.toBits.toBitVec)
  rwa [hbits]

/-! ## Doubles that compare equal -/

/-- Finite decoded doubles of one sign compare equal when they are the same. -/
theorem compare_finite_eq {s : Sign} {m m' : Nat} {e e' : ℤ} {hm : 0 < m} {hm' : 0 < m'} :
    (UnpackedFloat.finite s m e hm).compare (.finite s m' e' hm') = some .eq ↔
      e = e' ∧ m = m' := by
  have hthen : (compare e e').then (compare m m') = .eq ↔ e = e' ∧ m = m' := by
    rw [Ordering.then_eq_eq, compare_eq_iff_eq, compare_eq_iff_eq]
  cases s with
  | positive => exact Option.some_inj.trans hthen
  | negative => exact Option.some_inj.trans (Ordering.swap_eq_eq.trans hthen)

/-- Decoded doubles that compare equal are the same, unless both are zeros. -/
theorem eq_or_zero_of_compare {u w : UnpackedFloat} (h : u.compare w = some .eq) :
    u = w ∨ (∃ s, u = .zero s) ∧ ∃ s, w = .zero s := by
  cases u with
  | notANumber => cases h
  | infinity s =>
      cases w with
      | infinity t => cases s <;> cases t <;> first | exact .inl rfl | cases h
      | _ => cases s <;> cases h
  | zero s =>
      cases w with
      | notANumber => cases h
      | zero t => exact .inr ⟨⟨s, rfl⟩, t, rfl⟩
      | infinity t | finite t => cases t <;> cases h
  | finite s m e hm =>
      cases w with
      | notANumber => cases s <;> cases h
      | zero t => cases s <;> cases h
      | infinity t => cases s <;> cases t <;> cases h
      | finite t m' e' hm' =>
          have hsign : s = t := by cases s <;> cases t <;> first | rfl | cases h
          subst hsign
          obtain ⟨rfl, rfl⟩ := compare_finite_eq.mp h
          exact .inl rfl

/-- A finite double compares equal to itself. -/
theorem beq_self_of_isFinite {v : Float} (h : v.isFinite = true) : (v == v) = true := by
  have hcompare : v.toModel.unpack.compare v.toModel.unpack = some .eq := by
    have hfinite : v.toModel.unpack.isFinite = true := h
    generalize v.toModel.unpack = u at hfinite ⊢
    cases u with
    | notANumber | infinity s => cases hfinite
    | zero s => rfl
    | finite s m e hm => exact compare_finite_eq.mpr ⟨rfl, rfl⟩
  show (v.toModel.unpack.compare v.toModel.unpack == some .eq) = true
  rw [hcompare]
  rfl

/-- Doubles without a minus sign that compare equal are equal. -/
theorem eq_of_beq_of_hasMinus {v w : Float} (hv : hasMinus v = false) (hw : hasMinus w = false)
    (h : (v == w) = true) : v = w := by
  have hcompare : v.toModel.unpack.compare w.toModel.unpack = some .eq := eq_of_beq h
  have hpositive : ∀ {v : Float}, hasMinus v = false → HasSign .positive v.toModel.unpack := by
    intro v hv
    have hsign := hasSign_of_hasMinus v
    rwa [hv] at hsign
  have hsv := hpositive hv
  have hsw := hpositive hw
  apply eq_of_unpack
  rcases eq_or_zero_of_compare hcompare with heq | ⟨⟨s, hs⟩, t, ht⟩
  · exact heq
  · rw [hs] at hsv
    rw [ht] at hsw
    obtain rfl : s = .positive := hsv
    obtain rfl : t = .positive := hsw
    rw [hs, ht]

end Tabular
