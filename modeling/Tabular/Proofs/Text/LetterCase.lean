import Tabular.Proofs.Decimal.Numeral
import Tabular.Proofs.Text.Place
import Tabular.Text.Word

set_option autoImplicit false

/-! # The case of ASCII letters

Writing the ASCII letters of a text in lower case moves nothing: every character keeps its length in
bytes, and is a blank, a digit or a part of a word as before. A numeral has the same value in either
case, since the only letter in it is its exponent mark (`agree_scanNumeral`).
-/

namespace Tabular

/-! ## Characters -/

theorem toNat_toLower (c : Char) :
    c.toLower.toNat = if 65 ≤ c.toNat ∧ c.toNat ≤ 90 then c.toNat + 32 else c.toNat := by
  have hcapital : (c.val ≥ 'A'.val ∧ c.val ≤ 'Z'.val) ↔ 65 ≤ c.toNat ∧ c.toNat ≤ 90 := by
    rw [ge_iff_le, UInt32.le_iff_toNat_le, UInt32.le_iff_toNat_le]
    rfl
  by_cases h : 65 ≤ c.toNat ∧ c.toNat ≤ 90
  · rw [if_pos h]
    delta Char.toLower
    rw [dif_pos (hcapital.mpr h)]
    show (c.val + 32).toNat = c.toNat + 32
    rw [UInt32.toNat_add]
    show (c.toNat + 32) % 2 ^ 32 = _
    omega
  · rw [if_neg h]
    delta Char.toLower
    rw [dif_neg (mt hcapital.mp h)]

/-- Only letters have a lower case. -/
theorem toLower_eq_self {c : Char} (h : c.isAlpha = false) : c.toLower = c := by
  apply Char.toNat_inj.mp
  rw [toNat_toLower, if_neg]
  rw [Bool.eq_false_iff, Ne, isAlpha_iff] at h
  omega

theorem isAlpha_toLower (c : Char) : c.toLower.isAlpha = c.isAlpha := by
  rw [Bool.eq_iff_iff, isAlpha_iff, isAlpha_iff, toNat_toLower]
  split <;> omega

theorem toLower_toLower (c : Char) : c.toLower.toLower = c.toLower := by
  apply Char.toNat_inj.mp
  rw [toNat_toLower c.toLower, if_neg]
  rw [toNat_toLower]
  split <;> omega

theorem toLower_comp_toLower : Char.toLower ∘ Char.toLower = Char.toLower :=
  funext toLower_toLower

/-- What is the same for all letters is the same for a character and its lower case. -/
theorem toLower_congr {α : Type} {f : Char → α} {a : α} (hf : ∀ c, c.isAlpha = true → f c = a)
    (c : Char) : f c.toLower = f c := by
  cases h : c.isAlpha with
  | false => rw [toLower_eq_self h]
  | true => rw [hf c h, hf c.toLower ((isAlpha_toLower c).trans h)]

theorem isDigit_toLower (c : Char) : c.toLower.isDigit = c.isDigit := by
  refine toLower_congr (f := Char.isDigit) (fun c hc => isDigit_of_isWordStart ?_) c
  rw [isWordStart, hc, Bool.true_or]

theorem isDigit_comp_toLower : Char.isDigit ∘ Char.toLower = Char.isDigit :=
  funext isDigit_toLower

theorem isWordStart_toLower (c : Char) : isWordStart c.toLower = isWordStart c :=
  toLower_congr (fun c hc => by rw [isWordStart, hc, Bool.true_or]) c

theorem isWordPart_toLower (c : Char) : isWordPart c.toLower = isWordPart c :=
  toLower_congr (fun c hc => by rw [isWordPart, Char.isAlphanum, hc, Bool.true_or, Bool.true_or]) c

theorem isBlank_toLower (c : Char) : isBlank c.toLower = isBlank c := by
  refine toLower_congr (f := isBlank) (fun c hc => (wordPart_plain ?_).1) c
  rw [isWordPart, Char.isAlphanum, hc, Bool.true_or, Bool.true_or]

theorem utf8Size_toLower (c : Char) : c.toLower.utf8Size = c.utf8Size := by
  refine toLower_congr (a := 1) (fun c hc => ?_) c
  rw [isAlpha_iff] at hc
  rw [Char.utf8Size_eq_one_iff, UInt32.le_iff_toNat_le]
  show c.toNat ≤ 127
  omega

/-- A character that is no letter is told from all others in either case. -/
theorem toLower_eq_iff {c d : Char} (hd : d.isAlpha = false) : c.toLower = d ↔ c = d := by
  constructor
  · rintro rfl
    rw [isAlpha_toLower] at hd
    exact (toLower_eq_self hd).symm
  · rintro rfl
    exact toLower_eq_self hd

theorem byteLength_toLower (cs : List Char) : byteLength (cs.map Char.toLower) = byteLength cs := by
  induction cs with
  | nil => rfl
  | cons c cs ih => rw [List.map_cons, byteLength_cons, byteLength_cons, utf8Size_toLower, ih]

/-- Texts that are the same up to case are as long. -/
theorem byteLength_congr_toLower {cs ds : List Char}
    (h : cs.map Char.toLower = ds.map Char.toLower) : byteLength cs = byteLength ds := by
  rw [← byteLength_toLower cs, h, byteLength_toLower]

/-! ## Words -/

/-- A text with its ASCII letters in **lower case**. -/
def asciiLower (s : String) : String := String.ofList (s.toList.map Char.toLower)

theorem sameWord_asciiLower (s t : String) : sameWord s (asciiLower t) = sameWord s t := by
  rw [sameWord, asciiLower, String.toList_ofList, List.map_map, toLower_comp_toLower, sameWord]

theorem asciiLower_append (s t : String) : asciiLower (s ++ t) = asciiLower s ++ asciiLower t := by
  rw [asciiLower, String.toList_append, List.map_append, String.ofList_append]
  rfl

theorem asciiLower_eq_empty {s : String} : asciiLower s = "" ↔ s = "" := by
  rw [asciiLower, String.ofList_eq_empty_iff, List.map_eq_nil_iff, String.toList_eq_nil_iff]

/-! ## Numerals -/

section

variable (cs : List Char)

/-- Digits have no case. -/
theorem takeWhile_isDigit_toLower :
    (cs.map Char.toLower).takeWhile Char.isDigit = cs.takeWhile Char.isDigit := by
  rw [List.takeWhile_map, isDigit_comp_toLower]
  refine (List.map_congr_left fun c hc => ?_).trans (List.map_id _)
  have hc : c.isDigit = true := List.all_eq_true.mp List.all_takeWhile c hc
  refine toLower_eq_self (Bool.eq_false_iff.mpr fun hletter => ?_)
  have hnone : c.isDigit = false := isDigit_of_isWordStart (by rw [isWordStart, hletter, Bool.true_or])
  rw [hnone] at hc
  cases hc

theorem dropWhile_isDigit_toLower : (cs.map Char.toLower).dropWhile Char.isDigit =
    (cs.dropWhile Char.isDigit).map Char.toLower := by
  rw [List.dropWhile_map, isDigit_comp_toLower]

/-- A mantissa has no letters. -/
theorem Mantissa.take_toLower : take (cs.map Char.toLower) = take cs := by
  unfold take
  rw [dropWhile_isDigit_toLower, takeWhile_isDigit_toLower]
  cases cs.dropWhile Char.isDigit with
  | nil => rfl
  | cons d rest =>
      by_cases hd : d = '.'
      · subst hd
        show Mantissa.mk _ _ ((rest.map Char.toLower).takeWhile Char.isDigit) = _
        rw [takeWhile_isDigit_toLower]
        rfl
      · have hd' : d.toLower ≠ '.' := mt (toLower_eq_iff (by decide)).mp hd
        rw [List.map_cons]
        split
        · next heq => exact absurd (List.cons.inj heq).1 hd'
        · split
          · next heq => exact absurd (List.cons.inj heq).1 hd
          · rfl

namespace Exponent

/-- A sign has no case. -/
theorem takeSign_toLower : takeSign (cs.map Char.toLower) = takeSign cs := by
  cases cs with
  | nil => rfl
  | cons d rest =>
      by_cases hplus : d = '+'
      · subst hplus
        rfl
      · by_cases hminus : d = '-'
        · subst hminus
          rfl
        · have hplus' : d.toLower ≠ '+' := mt (toLower_eq_iff (by decide)).mp hplus
          have hminus' : d.toLower ≠ '-' := mt (toLower_eq_iff (by decide)).mp hminus
          rw [List.map_cons]
          unfold takeSign
          split <;> split <;> simp_all

/-- Of an exponent, only the mark has a case. -/
theorem take?_toLower : take? (cs.map Char.toLower) =
    (take? cs).map fun x => { x with mark := x.mark.toLower } := by
  cases cs with
  | nil => rfl
  | cons c rest =>
      have hmark : (c.toLower = 'e' ∨ c.toLower = 'E') ↔ (c = 'e' ∨ c = 'E') := by
        have he : 'e'.toNat = 101 := rfl
        have hE : 'E'.toNat = 69 := rfl
        simp only [← Char.toNat_inj, toNat_toLower, he, hE]
        split <;> omega
      rw [List.map_cons, take?, take?]
      by_cases h : c = 'e' ∨ c = 'E'
      · rw [if_pos h, if_pos (hmark.mpr h)]
        dsimp only
        rw [takeSign_toLower, ← List.map_drop, takeWhile_isDigit_toLower]
        rfl
      · rw [if_neg h, if_neg (mt hmark.mp h)]
        rfl

end Exponent

/-- Of the exponent of a numeral, only the mark has a case. -/
theorem numeralExponent?_toLower : numeralExponent? (cs.map Char.toLower) =
    (numeralExponent? cs).map fun x => { x with mark := x.mark.toLower } := by
  rw [numeralExponent?, Mantissa.take_toLower, ← List.map_drop, Exponent.take?_toLower,
    ← numeralExponent?]

theorem length_numeralText_toLower :
    (numeralText (cs.map Char.toLower)).length = (numeralText cs).length := by
  rw [numeralText, numeralText, Mantissa.take_toLower, numeralExponent?_toLower, List.length_append,
    List.length_append]
  cases numeralExponent? cs <;> rfl

/-- **A numeral has the same value in lower case**, and is as long. -/
theorem agree_scanNumeral : Agree (fun _ _ => True) (fun x y => x.1 = y.1 ∧ x.2.length = y.2.length)
    (scanNumeral cs) (scanNumeral (cs.map Char.toLower)) := by
  have hdigits : (numeralExponent? (cs.map Char.toLower)).any (·.digits.isEmpty) =
      (numeralExponent? cs).any (·.digits.isEmpty) := by
    rw [numeralExponent?_toLower]
    cases numeralExponent? cs <;> rfl
  have hvalue : numeralValue (Mantissa.take cs) (numeralExponent? (cs.map Char.toLower)) =
      numeralValue (Mantissa.take cs) (numeralExponent? cs) := by
    rw [numeralExponent?_toLower]
    cases numeralExponent? cs <;> rfl
  have hpoint : ((cs.drop (numeralText cs).length).map Char.toLower).head? = some '.' ↔
      (cs.drop (numeralText cs).length).head? = some '.' := by
    rw [List.head?_map, Option.map_eq_some_iff]
    constructor
    · rintro ⟨c, hc, hpoint⟩
      rwa [← (toLower_eq_iff (by decide)).mp hpoint]
    · exact fun h => ⟨'.', h, rfl⟩
  have hlength := (length_numeralText_toLower cs).symm
  rw [scanNumeral_eq, scanNumeral_eq, Mantissa.take_toLower, hdigits, hvalue,
    length_numeralText_toLower, ← List.map_drop]
  refine .ite Iff.rfl (fun _ => ?_) fun _ => trivial
  refine .ite Iff.rfl (fun _ => trivial) fun _ => ?_
  refine .ite hpoint.symm (fun _ => trivial) fun _ => ?_
  exact .ite Iff.rfl (fun _ => ⟨rfl, hlength⟩) fun _ => trivial

end

/-! ### Their characters -/

/-- The digits and points of a mantissa. -/
theorem isPlain_text_take (cs : List Char) : IsPlain (Mantissa.take cs).text := by
  have hdigits : ∀ cs : List Char, IsPlain (cs.takeWhile Char.isDigit) :=
    fun cs c hc => .inl (List.all_eq_true.mp List.all_takeWhile c hc)
  unfold Mantissa.take
  split
  · next rest _ =>
      refine (hdigits cs).append fun c hc => ?_
      rcases List.mem_cons.mp hc with rfl | hc
      · exact .inr rfl
      · exact hdigits rest c hc
  · exact (hdigits cs).append fun c hc => nomatch hc

/-- The mark, the sign and the digits of an exponent. -/
theorem mem_text_of_take? {cs : List Char} {x : Exponent} (h : Exponent.take? cs = some x)
    {c : Char} (hc : c ∈ x.text) : c.isDigit = true ∨ c ∈ ['e', 'E', '+', '-'] := by
  have hmark := Exponent.mark_of_take? h
  cases cs with
  | nil => cases h
  | cons d rest =>
      rw [Exponent.take?] at h
      split at h
      · cases h
        rw [Exponent.text, List.cons_append, List.mem_cons, List.mem_append] at hc
        rcases hc with rfl | hc | hc
        · rcases hmark with rfl | rfl <;> decide
        · -- the sign
          unfold Exponent.takeSign at hc
          split at hc
          · rw [List.mem_singleton.mp hc]; decide
          · rw [List.mem_singleton.mp hc]; decide
          · cases hc
        · exact .inl (List.all_eq_true.mp List.all_takeWhile c hc)
      · cases h

/-- A numeral consists of digits, points, exponent marks and signs. -/
theorem mem_numeralText {cs : List Char} {c : Char} (hc : c ∈ numeralText cs) :
    c.isDigit = true ∨ c ∈ ['.', 'e', 'E', '+', '-'] := by
  rw [numeralText, List.mem_append] at hc
  rcases hc with hc | hc
  · rcases isPlain_text_take cs c hc with hdigit | rfl
    · exact .inl hdigit
    · exact .inr List.mem_cons_self
  · cases hexponent : numeralExponent? cs with
    | none =>
        rw [hexponent] at hc
        cases hc
    | some x =>
        rw [hexponent] at hc
        exact (mem_text_of_take? hexponent hc).imp_right (List.mem_cons_of_mem _)

/-- What a numeral takes behind its first character is part of the numeral. -/
theorem take_subset_numeralText (c : Char) (rest : List Char) :
    rest.take ((numeralText (c :: rest)).length - 1) ⊆ numeralText (c :: rest) := by
  intro d hd
  rw [List.prefix_iff_eq_take.mp (numeralText_isPrefix (c :: rest))]
  cases hlength : (numeralText (c :: rest)).length with
  | zero =>
      rw [hlength] at hd
      cases hd
  | succ n =>
      rw [hlength] at hd
      exact List.mem_cons_of_mem c hd

end Tabular
