import Mathlib.Data.List.TakeWhile
import Tabular.Decimal.Shortest
import Tabular.Text.Blank

set_option autoImplicit false

/-! # Scanning the text of a number

The text of a finite number without sign consists of digits and at most one point
(`isPlain_showNumber`). When such a text, read by itself, is a number, then the tokenizers take just
this text off the front of any longer one that does not go on with a numeral
(`scanNumeral_append`). Conversely, a numeral that has been scanned is scanned again in front of
anything that no numeral goes on with (`scanNumeral_append_of_ok`), and by itself
(`scanNumeral_alone`).
-/

namespace Tabular

/-! ## Plain numerals -/

/-- A **plain** numeral has no characters but digits and points. -/
def IsPlain (cs : List Char) : Prop := ∀ c ∈ cs, c.isDigit = true ∨ c = '.'

theorem IsPlain.append {as bs : List Char} (ha : IsPlain as) (hb : IsPlain bs) :
    IsPlain (as ++ bs) := by
  intro c hc
  rcases List.mem_append.mp hc with h | h
  · exact ha c h
  · exact hb c h

theorem IsPlain.of_subset {as bs : List Char} (hb : IsPlain bs) (h : as ⊆ bs) : IsPlain as :=
  fun c hc => hb c (h hc)

theorem isPlain_zeros (n : Nat) : IsPlain (List.replicate n '0') := by
  intro c hc
  rw [List.eq_of_mem_replicate hc]
  exact .inl rfl

theorem isPlain_toDigits (n : Nat) : IsPlain (Nat.toDigits 10 n) :=
  fun _ hc => .inl (Nat.isDigit_of_mem_toDigits (by decide) (by decide) hc)

/-- The first character of a plain text is no blank. -/
theorem isBlank_of_plain {c : Char} (hc : c.isDigit = true ∨ c = '.') : isBlank c = false := by
  rcases hc with hdigit | rfl
  · have hbounds : 48 ≤ c.toNat ∧ c.toNat ≤ 57 := by
      simpa [Char.isDigit, UInt32.le_iff_toNat_le] using hdigit
    simp only [isBlank, Bool.or_eq_false_iff, Bool.and_eq_false_iff, decide_eq_false_iff_not,
      beq_eq_false_iff_ne]
    omega
  · rfl

/-- Positional notation is plain. -/
theorem Decimal.isPlain_positional (d : Decimal) : IsPlain d.positional := by
  have hpoint : IsPlain ['.'] := by
    intro c hc
    exact .inr (List.mem_singleton.mp hc)
  have hdigits : ∀ k, IsPlain ((Nat.toDigits 10 d.digits).take k) := fun k =>
    (isPlain_toDigits _).of_subset (List.take_subset k _)
  unfold positional
  dsimp only
  split
  · exact (hdigits _).append (isPlain_zeros _)
  · split
    · refine ((hdigits _).of_subset (List.take_subset _ _)).append ?_
      exact hpoint.append ((hdigits _).of_subset (List.drop_subset _ _))
    · refine (isPlain_zeros 1).append (hpoint.append ?_)
      exact (isPlain_zeros _).append (hdigits _)

/-- The characters of a finite number without its sign are plain. -/
theorem isPlain_showMagnitude {v : Float} (hfinite : v.isFinite = true) :
    IsPlain (showMagnitude v) := by
  have hinf : v.isInf = false := by
    unfold Float.isFinite Float.Model.isFinite at hfinite
    unfold Float.isInf Float.Model.isInf
    generalize v.toModel.unpack = u at hfinite ⊢
    cases u <;> first | rfl | cases hfinite
  simp only [showMagnitude, hinf, Bool.false_eq_true, if_false]
  split
  · exact isPlain_zeros 1
  · exact Decimal.isPlain_positional _

/-- A finite number is no not-a-number. -/
theorem isNaN_of_isFinite {v : Float} (hfinite : v.isFinite = true) : v.isNaN = false := by
  unfold Float.isFinite Float.Model.isFinite at hfinite
  unfold Float.isNaN Float.Model.isNaN
  generalize v.toModel.unpack = u at hfinite ⊢
  cases u <;> first | rfl | cases hfinite

/-- The text of a finite number is plain, unless the number has a minus sign. -/
theorem isPlain_showNumber {v : Float} (hfinite : v.isFinite = true)
    (hsign : hasMinus v = false) : IsPlain (showNumber v).toList := by
  have hshow : (showNumber v).toList = showMagnitude v := by
    simp only [showNumber, isNaN_of_isFinite hfinite, hsign, Bool.false_eq_true, if_false,
      String.toList_ofList]
  rw [hshow]
  exact isPlain_showMagnitude hfinite

/-! ## Mantissas -/

section

variable {p : Char → Bool} {cs rest : List Char}

/-- A run ends in front of a character that does not belong to it. -/
theorem takeWhile_append_of_head (hrest : ∀ c ∈ rest.head?, p c = false) :
    (cs ++ rest).takeWhile p = cs.takeWhile p := by
  induction cs with
  | nil =>
      cases rest with
      | nil => rfl
      | cons c rest => exact List.takeWhile_cons_of_neg (Bool.eq_false_iff.mp (hrest c rfl))
  | cons c cs ih => simp only [List.cons_append, List.takeWhile_cons, ih]

theorem dropWhile_append_of_head (hrest : ∀ c ∈ rest.head?, p c = false) :
    (cs ++ rest).dropWhile p = cs.dropWhile p ++ rest := by
  induction cs with
  | nil =>
      cases rest with
      | nil => rfl
      | cons c rest => exact List.dropWhile_cons_of_neg (Bool.eq_false_iff.mp (hrest c rfl))
  | cons c cs ih =>
      simp only [List.cons_append, List.dropWhile_cons, ih]
      split <;> rfl

/-- A text that does not start with a character does not do so in front of what does not either. -/
theorem append_ne_cons_of_head {c : Char} (hcs : ∀ tail, cs = c :: tail → False)
    (hrest : rest.head? ≠ some c) : ∀ tail, cs ++ rest = c :: tail → False := by
  intro tail heq
  cases cs with
  | nil => exact hrest (by rw [← List.nil_append rest, heq, List.head?_cons])
  | cons d cs =>
      obtain ⟨rfl, -⟩ := List.cons.inj heq
      exact hcs cs rfl

namespace Mantissa

/-- The mantissa at the front of a text is a part of the text. -/
theorem text_take_prefix (cs : List Char) : (take cs).text <+: cs := by
  have hsplit := List.takeWhile_append_dropWhile (p := Char.isDigit) (l := cs)
  unfold take
  split
  · rename_i rest hdrop
    refine ⟨rest.dropWhile Char.isDigit, ?_⟩
    rw [hdrop] at hsplit
    simp only [text, if_true, List.append_assoc, List.cons_append,
      List.takeWhile_append_dropWhile]
    exact hsplit
  · simp only [text, Bool.false_eq_true, if_false, List.append_nil]
    exact List.takeWhile_prefix _

/-- A mantissa ends in front of what is neither a digit nor a point. -/
theorem take_append (hrest : ∀ c ∈ rest.head?, c.isDigit = false ∧ c ≠ '.') :
    take (cs ++ rest) = take cs := by
  have hdigit : ∀ c ∈ rest.head?, c.isDigit = false := fun c hc => (hrest c hc).1
  unfold take
  rw [takeWhile_append_of_head hdigit, dropWhile_append_of_head hdigit]
  cases hdrop : cs.dropWhile Char.isDigit with
  | nil =>
      rw [List.nil_append]
      split
      · exact absurd rfl (hrest '.' rfl).2
      · rfl
  | cons c left =>
      rw [List.cons_append]
      by_cases hpoint : c = '.'
      · subst hpoint
        exact congrArg (Mantissa.mk _ true) (takeWhile_append_of_head hdigit)
      · split
        · rename_i heq
          exact absurd (List.cons.inj heq).1 hpoint
        · split
          · rename_i heq
            exact absurd (List.cons.inj heq).1 hpoint
          · rfl

end Mantissa

end

/-! ## Reading and scanning -/

section

variable {cs rest : List Char} {v : Float}

/-- A plain text has no sign. -/
theorem readDecimal?_of_plain (hplain : IsPlain cs) : readDecimal? cs = readUnsigned? cs := by
  unfold readDecimal?
  split
  · rcases hplain '+' List.mem_cons_self with h | h <;> cases h
  · rcases hplain '-' List.mem_cons_self with h | h <;> cases h
  · rfl

/-- A plain text that is a number is a mantissa. -/
theorem mantissa_of_readUnsigned? (hplain : IsPlain cs) (h : readUnsigned? cs = some v) :
    (Mantissa.take cs).hasDigit = true ∧ (Mantissa.take cs).text = cs ∧
      v = numeralValue (Mantissa.take cs) none := by
  have hsplit := List.prefix_iff_eq_append.mp (Mantissa.text_take_prefix cs)
  unfold readUnsigned? at h
  dsimp only at h
  split at h
  · rename_i hdigit
    split at h
    · rename_i hdrop
      cases h
      rw [hdrop, List.append_nil] at hsplit
      exact ⟨hdigit, hsplit, rfl⟩
    · rename_i left hleft
      cases hdrop : cs.drop (Mantissa.take cs).text.length with
      | nil => exact absurd hdrop hleft
      | cons c left =>
          -- what is left would start with an exponent mark, which is not plain
          have hc : c ∈ cs := List.mem_of_mem_drop (hdrop ▸ List.mem_cons_self)
          have hmark : ¬ (c = 'e' ∨ c = 'E') := by
            rcases hplain c hc with hdigit | rfl
            · rintro (rfl | rfl) <;> cases hdigit
            · decide
          rw [hdrop] at h
          simp only [Exponent.take?, if_neg hmark] at h
          cases h
  · cases h

/-- **A plain text that is a number is scanned** off the front of a text that does not go on with a
numeral after it. -/
theorem scanNumeral_append (hplain : IsPlain cs) (h : readUnsigned? cs = some v)
    (hfinite : v.isFinite = true)
    (hrest : ∀ c ∈ rest.head?, c.isDigit = false ∧ c ≠ '.' ∧ c ≠ 'e' ∧ c ≠ 'E') :
    scanNumeral (cs ++ rest) = .ok (v, cs) := by
  obtain ⟨hdigit, htext, rfl⟩ := mantissa_of_readUnsigned? hplain h
  have htake : Mantissa.take (cs ++ rest) = Mantissa.take cs :=
    Mantissa.take_append fun c hc => ⟨(hrest c hc).1, (hrest c hc).2.1⟩
  have hexponent : Exponent.take? rest = none := by
    cases rest with
    | nil => rfl
    | cons c rest =>
        have hc := (hrest c rfl).2.2
        exact if_neg (not_or.mpr hc)
  have hpoint : rest.head? ≠ some '.' := by
    intro hhead
    exact (hrest '.' hhead).2.1 rfl
  unfold scanNumeral
  simp only [htake, hdigit, htext, if_true, List.drop_left, hexponent, Option.elim_none,
    List.append_nil, Option.any_none, Bool.false_eq_true, if_false, if_neg hpoint, hfinite]

/-! ### Numerals in front of something else -/

/-- Nothing follows that a numeral could go on with. -/
def EndsNumeral (rest : List Char) : Prop :=
  ∀ c ∈ rest.head?, c.isDigit = false ∧ c ∉ ['.', 'e', 'E', '+', '-']

namespace Exponent

theorem takeSign_isPrefix (cs : List Char) : takeSign cs <+: cs := by
  unfold takeSign
  split
  · exact ⟨_, rfl⟩
  · exact ⟨_, rfl⟩
  · exact List.nil_prefix

/-- The exponent at the front of a text is a part of the text. -/
theorem text_take?_isPrefix {x : Exponent} (h : take? cs = some x) : x.text <+: cs := by
  cases cs with
  | nil => cases h
  | cons c cs =>
      rw [take?] at h
      split at h
      · cases h
        have hsign := List.prefix_iff_eq_append.mp (takeSign_isPrefix cs)
        refine List.prefix_cons_inj c |>.mpr ?_
        show takeSign cs ++ (cs.drop (takeSign cs).length).takeWhile Char.isDigit <+: cs
        refine ⟨(cs.drop (takeSign cs).length).dropWhile Char.isDigit, ?_⟩
        rw [List.append_assoc, List.takeWhile_append_dropWhile]
        exact hsign
      · cases h

/-- Only the first character can be a sign. -/
theorem takeSign_cons (d : Char) (as bs : List Char) : takeSign (d :: as) = takeSign (d :: bs) := by
  unfold takeSign
  split <;> split <;> simp_all

theorem takeSign_of_ends (hrest : EndsNumeral rest) : takeSign rest = [] := by
  unfold takeSign
  split
  · exact absurd (by decide) (hrest '+' rfl).2
  · exact absurd (by decide) (hrest '-' rfl).2
  · rfl

/-- An exponent ends in front of what no numeral goes on with. -/
theorem take?_append (hrest : EndsNumeral rest) : take? (cs ++ rest) = take? cs := by
  cases cs with
  | nil =>
      cases rest with
      | nil => rfl
      | cons c rest =>
          have hmark : ¬ (c = 'e' ∨ c = 'E') := by
            rintro (rfl | rfl)
            · exact absurd (by decide) (hrest 'e' rfl).2
            · exact absurd (by decide) (hrest 'E' rfl).2
          exact if_neg hmark
  | cons c cs =>
      have hsign : takeSign (cs ++ rest) = takeSign cs := by
        cases cs with
        | nil => exact takeSign_of_ends hrest
        | cons d cs => exact takeSign_cons d (cs ++ rest) cs
      have hdigits : ((cs ++ rest).drop (takeSign cs).length).takeWhile Char.isDigit =
          (cs.drop (takeSign cs).length).takeWhile Char.isDigit := by
        rw [List.drop_append_of_le_length (takeSign_isPrefix cs).length_le]
        exact takeWhile_append_of_head fun c hc => (hrest c hc).1
      rw [List.cons_append, take?, take?]
      simp only [hsign, hdigits]

end Exponent

/-- The exponent of the numeral at the front of a text, if it has one. -/
def numeralExponent? (cs : List Char) : Option Exponent :=
  Exponent.take? (cs.drop (Mantissa.take cs).text.length)

/-- The characters of the numeral at the front of a text. -/
def numeralText (cs : List Char) : List Char :=
  (Mantissa.take cs).text ++ (numeralExponent? cs).elim [] Exponent.text

/-- The numeral at the front of a text is a part of the text. -/
theorem numeralText_isPrefix (cs : List Char) : numeralText cs <+: cs := by
  have hsplit := List.prefix_iff_eq_append.mp (Mantissa.text_take_prefix cs)
  rw [numeralText]
  cases hexponent : numeralExponent? cs with
  | none =>
      rw [Option.elim_none, List.append_nil]
      exact Mantissa.text_take_prefix cs
  | some x =>
      obtain ⟨left, hleft⟩ := Exponent.text_take?_isPrefix hexponent
      exact ⟨left, by rw [Option.elim_some, List.append_assoc, hleft, hsplit]⟩

/-- What is scanned, in terms of the parts of the numeral at the front of a text. -/
theorem scanNumeral_eq (cs : List Char) : scanNumeral cs =
    if (Mantissa.take cs).hasDigit then
      if (numeralExponent? cs).any (·.digits.isEmpty) then .error (numeralText cs)
      else if (cs.drop (numeralText cs).length).head? = some '.' then
        .error (numeralText cs ++ ['.'])
      else if (numeralValue (Mantissa.take cs) (numeralExponent? cs)).isFinite then
        .ok (numeralValue (Mantissa.take cs) (numeralExponent? cs), numeralText cs)
      else .error (numeralText cs)
    else .error (Mantissa.take cs).text :=
  rfl

/-- A numeral is scanned when its mantissa has a digit, its exponent, if any, has one, no second point
follows and its value is finite. -/
theorem scanNumeral_eq_ok {numeral : List Char} : scanNumeral cs = .ok (v, numeral) ↔
    (Mantissa.take cs).hasDigit = true ∧ (numeralExponent? cs).any (·.digits.isEmpty) = false ∧
      (cs.drop (numeralText cs).length).head? ≠ some '.' ∧ v.isFinite = true ∧
      v = numeralValue (Mantissa.take cs) (numeralExponent? cs) ∧ numeral = numeralText cs := by
  rw [scanNumeral_eq]
  constructor
  · intro h
    split at h
    case isFalse => cases h
    split at h
    case isTrue => cases h
    split at h
    case isTrue => cases h
    split at h
    case isFalse => cases h
    rename_i hdigit hdigits hpoint hfinite
    cases h
    exact ⟨hdigit, Bool.eq_false_iff.mpr hdigits, hpoint, hfinite, rfl, rfl⟩
  · rintro ⟨hdigit, hdigits, hpoint, hfinite, rfl, rfl⟩
    rw [if_pos hdigit, if_neg (Bool.eq_false_iff.mp hdigits), if_neg hpoint, if_pos hfinite]

/-- The numeral that is scanned is the one at the front of the text. -/
theorem eq_numeralText_of_scanNumeral {numeral : List Char}
    (h : scanNumeral cs = .ok (v, numeral)) : numeral = numeralText cs :=
  (scanNumeral_eq_ok.mp h).2.2.2.2.2

/-- **What is scanned stays the same** in front of what no numeral goes on with. -/
theorem scanNumeral_append_of_ok {numeral : List Char} (h : scanNumeral cs = .ok (v, numeral))
    (hrest : EndsNumeral rest) : scanNumeral (cs ++ rest) = .ok (v, numeral) := by
  have htake : Mantissa.take (cs ++ rest) = Mantissa.take cs := by
    refine Mantissa.take_append fun c hc => ⟨(hrest c hc).1, ?_⟩
    rintro rfl
    exact absurd (by decide) (hrest '.' hc).2
  have hexponent : numeralExponent? (cs ++ rest) = numeralExponent? cs := by
    rw [numeralExponent?, htake,
      List.drop_append_of_le_length (Mantissa.text_take_prefix cs).length_le,
      Exponent.take?_append hrest, ← numeralExponent?]
  have htext : numeralText (cs ++ rest) = numeralText cs := by
    rw [numeralText, htake, hexponent, ← numeralText]
  obtain ⟨hdigit, hdigits, hpoint, hfinite, hv, hnumeral⟩ := scanNumeral_eq_ok.mp h
  rw [scanNumeral_eq_ok, htake, hexponent, htext]
  refine ⟨hdigit, hdigits, ?_, hfinite, hv, hnumeral⟩
  rw [List.drop_append_of_le_length (numeralText_isPrefix cs).length_le, List.head?_append]
  cases hleft : cs.drop (numeralText cs).length with
  | cons c left => rwa [hleft] at hpoint
  | nil =>
      intro hhead
      exact absurd (by decide) (hrest '.' hhead).2

/-- A numeral after its first character is no longer than the text, and is scanned in front of what no
numeral goes on with. -/
theorem scanNumeral_cons_append {c : Char} {numeral : List Char}
    (h : scanNumeral (c :: cs) = .ok (v, numeral)) (hrest : EndsNumeral rest) :
    scanNumeral (c :: (cs ++ rest)) = .ok (v, numeral) ∧ numeral.length - 1 ≤ cs.length := by
  refine ⟨scanNumeral_append_of_ok h hrest, ?_⟩
  have hlength := (numeralText_isPrefix (c :: cs)).length_le
  rw [← eq_numeralText_of_scanNumeral h, List.length_cons] at hlength
  exact Nat.sub_le_iff_le_add.mpr hlength

/-! ### Numerals alone -/

/-- A mantissa is taken off its own text. -/
theorem Mantissa.take_text {m : Mantissa} (hwhole : ∀ c ∈ m.whole, c.isDigit = true)
    (hfraction : ∀ c ∈ m.fraction, c.isDigit = true) (hpoint : m.point = false → m.fraction = []) :
    take m.text = m := by
  obtain ⟨whole, point, fraction⟩ := m
  have htake : whole.takeWhile Char.isDigit = whole := List.takeWhile_eq_self_iff.mpr hwhole
  have htake' : fraction.takeWhile Char.isDigit = fraction :=
    List.takeWhile_eq_self_iff.mpr hfraction
  have hdrop : whole.dropWhile Char.isDigit = [] := List.dropWhile_eq_nil_iff.mpr hwhole
  cases point with
  | false =>
      obtain rfl : fraction = [] := hpoint rfl
      simp only [text, Bool.false_eq_true, if_false, List.append_nil, take, hdrop, htake]
  | true =>
      have hhead : ∀ c ∈ ('.' :: fraction).head?, c.isDigit = false := by
        intro c hc
        cases hc
        rfl
      simp only [text, if_true, take]
      rw [takeWhile_append_of_head hhead, dropWhile_append_of_head hhead, htake, hdrop,
        List.nil_append]
      exact congrArg (Mantissa.mk whole true) htake'

/-- The mantissa at the front of a text is the one of its own characters. -/
theorem Mantissa.take_text_take (cs : List Char) : take (take cs).text = take cs := by
  have hdigits : ∀ cs : List Char, ∀ c ∈ cs.takeWhile Char.isDigit, c.isDigit = true :=
    fun cs => List.all_eq_true.mp List.all_takeWhile
  generalize hm : take cs = m
  unfold take at hm
  split at hm
  · subst hm
    exact take_text (hdigits _) (hdigits _) nofun
  · subst hm
    exact take_text (hdigits _) (fun _ hc => nomatch hc) fun _ => rfl

/-- Digits do not start with a sign, so the sign in front of them is the whole one. -/
theorem Exponent.takeSign_append {digits : List Char} (hdigits : ∀ d ∈ digits, d.isDigit = true) :
    takeSign (takeSign cs ++ digits) = takeSign cs := by
  have hnone : takeSign digits = [] := by
    unfold takeSign
    split
    · cases hdigits '+' List.mem_cons_self
    · cases hdigits '-' List.mem_cons_self
    · rfl
  fun_cases takeSign cs with
  | case1 => rfl
  | case2 => rfl
  | case3 => exact hnone

/-- An exponent starts with an exponent mark. -/
theorem Exponent.mark_of_take? {x : Exponent} (h : take? cs = some x) :
    x.mark = 'e' ∨ x.mark = 'E' := by
  cases cs with
  | nil => cases h
  | cons c cs =>
      rw [take?] at h
      split at h
      · next hmark =>
          cases h
          exact hmark
      · cases h

/-- An exponent is taken off its own text. -/
theorem Exponent.take?_text {x : Exponent} (h : take? cs = some x) : take? x.text = some x := by
  cases cs with
  | nil => cases h
  | cons c cs =>
      rw [take?] at h
      split at h
      next hmark =>
        cases h
        have hdigits : ∀ d ∈ (cs.drop (takeSign cs).length).takeWhile Char.isDigit,
            d.isDigit = true := List.all_eq_true.mp List.all_takeWhile
        rw [text, List.cons_append, take?, if_pos hmark]
        simp only [takeSign_append hdigits, List.drop_left, List.takeWhile_idem]
      · cases h

/-- The numeral at the front of a text has the parts that the text has there. -/
theorem numeralText_parts (cs : List Char) : Mantissa.take (numeralText cs) = Mantissa.take cs ∧
    numeralExponent? (numeralText cs) = numeralExponent? cs := by
  have htake : Mantissa.take (numeralText cs) = Mantissa.take cs := by
    rw [numeralText]
    cases hexponent : numeralExponent? cs with
    | none => rw [Option.elim_none, List.append_nil, Mantissa.take_text_take]
    | some x =>
        rw [Option.elim_some, Mantissa.take_append, Mantissa.take_text_take]
        intro c hc
        obtain rfl : x.mark = c := Option.some.inj hc
        rcases Exponent.mark_of_take? hexponent with hmark | hmark <;> rw [hmark] <;> decide
  refine ⟨htake, ?_⟩
  rw [numeralExponent?, htake, numeralText, List.drop_left]
  cases hexponent : numeralExponent? cs with
  | none => rfl
  | some x => exact Exponent.take?_text hexponent

/-- **What is scanned is scanned alone** with the same value. -/
theorem scanNumeral_alone {numeral : List Char} (h : scanNumeral cs = .ok (v, numeral)) :
    scanNumeral numeral = .ok (v, numeral) := by
  obtain ⟨hdigit, hdigits, -, hfinite, hv, rfl⟩ := scanNumeral_eq_ok.mp h
  obtain ⟨htake, hexponent⟩ := numeralText_parts cs
  have htext : numeralText (numeralText cs) = numeralText cs := by
    rw [numeralText, htake, hexponent, ← numeralText]
  rw [scanNumeral_eq_ok, htake, hexponent, htext]
  refine ⟨hdigit, hdigits, ?_, hfinite, hv, rfl⟩
  -- nothing follows the numeral
  rw [List.drop_length]
  exact fun hhead => nomatch hhead

/-- A numeral is scanned off the characters that are taken for it. -/
theorem scanNumeral_cons_alone {c : Char} {numeral : List Char}
    (h : scanNumeral (c :: cs) = .ok (v, numeral)) :
    scanNumeral (c :: cs.take (numeral.length - 1)) = .ok (v, numeral) := by
  have halone := scanNumeral_alone h
  cases numeral with
  | nil => cases halone
  | cons d more =>
      have hprefix := numeralText_isPrefix (c :: cs)
      rw [← eq_numeralText_of_scanNumeral h] at hprefix
      obtain ⟨rfl, hmore⟩ := List.cons_prefix_cons.mp hprefix
      rw [List.length_cons, Nat.add_sub_cancel, ← List.prefix_iff_eq_take.mp hmore]
      exact halone

end

/-! ## Readings that stay -/

/-- A reading of a text of some length **stays** when what it takes off the front is within the text
and is taken off by another reading as well. -/
def Stays {ε α : Type} (length : Nat) (r r' : Except ε (α × Nat)) : Prop :=
  ∀ (x : α) (more : Nat), r = .ok (x, more) → r' = .ok (x, more) ∧ more ≤ length

section

variable {ε α : Type} {length : Nat} {r r' s s' : Except ε (α × Nat)}

theorem stays_ok (x : α) {more : Nat} (h : more ≤ length) :
    Stays length (.ok (x, more) : Except ε (α × Nat)) (.ok (x, more)) := by
  intro y count heq
  cases heq
  exact ⟨rfl, h⟩

/-- A choice that does not depend on what is read stays when both of its readings do. -/
theorem Stays.ite {p : Prop} [Decidable p] (hr : Stays length r r') (hs : Stays length s s') :
    Stays length (if p then r else s) (if p then r' else s') := by
  split
  · exact hr
  · exact hs

end

end Tabular
