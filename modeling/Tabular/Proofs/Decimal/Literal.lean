import Tabular.Proofs.Condition.Scanning
import Tabular.Proofs.Decimal.Positional
import Tabular.Proofs.Decimal.Sign
import Tabular.Proofs.Formula.Scanning

set_option autoImplicit false

/-! # Numerals in a text

    numeral  := mantissa exponent?
    mantissa := digit+ ('.' digit*)? | '.' digit+
    exponent := ('e' | 'E') ('+' | '-')? digit+

A numeral stands at the front of a text when its mantissa is the longest one there, and is followed
by no exponent mark or else by the mark of an exponent, which is the longest one there; and when no
second point comes after the numeral (`NumeralAt`). The scanner takes just the numerals whose value
is finite, and gives them the double nearest to the number that they write
(`scanNumeral_eq_ok_iff`).
-/

namespace Tabular

/-! ## Longest parts -/

section

variable {P : Type} (wellFormed : P → Prop) (text : P → List Char)

/-- A part **leads** a text when it is a well-formed part, stands at the front of the text, and no
other one that does is longer. -/
def Leads (part : P) (cs : List Char) : Prop :=
  wellFormed part ∧ text part <+: cs ∧
    ∀ other, wellFormed other → text other <+: cs → (text other).length ≤ (text part).length

variable {wellFormed text} {p q : P} {cs : List Char}

/-- The parts that lead a text have the same characters. -/
theorem Leads.text_eq (hp : Leads wellFormed text p cs) (hq : Leads wellFormed text q cs) :
    text p = text q := by
  obtain ⟨hwp, hpcs, hpmax⟩ := hp
  obtain ⟨hwq, hqcs, hqmax⟩ := hq
  have hlength : (text p).length = (text q).length :=
    Nat.le_antisymm (hqmax p hwp hpcs) (hpmax q hwq hqcs)
  exact (List.prefix_of_prefix_length_le hpcs hqcs hlength.le).eq_of_length hlength

end

/-! ## Mantissas -/

namespace Mantissa

theorem hasDigit_iff {m : Mantissa} : m.hasDigit = true ↔ m.whole ≠ [] ∨ m.fraction ≠ [] := by
  simp [hasDigit, ← not_and_or]

theorem whole_take (cs : List Char) : (take cs).whole = cs.takeWhile Char.isDigit := by
  unfold take
  split <;> rfl

theorem isWellFormed_take {cs : List Char} (h : (take cs).hasDigit = true) :
    (take cs).IsWellFormed := by
  have hdigits : ∀ cs : List Char, IsDigits (cs.takeWhile Char.isDigit) :=
    fun cs => List.all_eq_true.mp List.all_takeWhile
  refine ⟨?_, ?_, ?_, h⟩
  · rw [whole_take]
    exact hdigits cs
  · unfold take
    split
    · exact hdigits _
    · exact List.forall_mem_nil _
  · unfold take
    split
    · intro hpoint
      cases hpoint
    · intro
      rfl

/-- The mantissa at the front of a text that starts with a well-formed one goes on from there. -/
theorem take_text_append {m : Mantissa} (h : m.IsWellFormed) (rest : List Char) :
    m.text <+: (take (m.text ++ rest)).text ∧ (take (m.text ++ rest)).hasDigit = true := by
  obtain ⟨whole, point, fraction⟩ := m
  obtain ⟨hwhole, hfraction, hpoint, hdigit⟩ := h
  cases point with
  | false =>
      obtain rfl : fraction = [] := hpoint rfl
      have htext : (⟨whole, false, []⟩ : Mantissa).text = whole := by simp [text]
      have htake : (take (whole ++ rest)).whole = whole ++ rest.takeWhile Char.isDigit := by
        rw [whole_take, List.takeWhile_append_of_pos hwhole]
      have hne : whole ≠ [] := by
        rintro rfl
        cases hdigit
      rw [htext, hasDigit_iff, htake]
      refine ⟨?_, .inl (by simp [hne])⟩
      rw [text, htake, List.append_assoc]
      exact List.prefix_append _ _
  | true =>
      have hhead : ∀ c ∈ ('.' :: (fraction ++ rest)).head?, c.isDigit = false := by
        intro c hc
        cases hc
        rfl
      have htext : (⟨whole, true, fraction⟩ : Mantissa).text ++ rest =
          whole ++ '.' :: (fraction ++ rest) := by simp [text]
      have hall : whole.takeWhile Char.isDigit = whole := List.takeWhile_eq_self_iff.mpr hwhole
      have hnone : whole.dropWhile Char.isDigit = [] := List.dropWhile_eq_nil_iff.mpr hwhole
      have htake : take (whole ++ '.' :: (fraction ++ rest)) =
          ⟨whole, true, fraction ++ rest.takeWhile Char.isDigit⟩ := by
        simp only [take]
        rw [takeWhile_append_of_head hhead, dropWhile_append_of_head hhead, hall, hnone,
          List.nil_append]
        exact congrArg (Mantissa.mk whole true) (List.takeWhile_append_of_pos hfraction)
      rw [htext, htake]
      refine ⟨by simp [text], ?_⟩
      rw [hasDigit_iff] at hdigit ⊢
      exact hdigit.imp_right (List.append_ne_nil_of_left_ne_nil · _)

/-- **The mantissa at the front of a text**, if it has a digit, leads the text, and no other does.
-/
theorem leads_iff {m : Mantissa} {cs : List Char} :
    Leads IsWellFormed text m cs ↔ (take cs).hasDigit = true ∧ m = take cs := by
  have hleads : (take cs).hasDigit = true → Leads IsWellFormed text (take cs) cs := by
    intro h
    refine ⟨isWellFormed_take h, text_take_prefix cs, ?_⟩
    rintro n hn ⟨rest, rfl⟩
    exact (take_text_append hn rest).1.length_le
  constructor
  · intro h
    obtain ⟨rest, hrest⟩ := h.2.1
    have hdigit : (take cs).hasDigit = true := by
      rw [← hrest]
      exact (take_text_append h.1 rest).2
    refine ⟨hdigit, ?_⟩
    calc m = take m.text := (take_text h.1.whole h.1.fraction h.1.point).symm
      _ = take (take cs).text := by rw [h.text_eq (hleads hdigit)]
      _ = take cs := take_text_take cs
  · rintro ⟨hdigit, rfl⟩
    exact hleads hdigit

end Mantissa

/-! ## Exponents -/

namespace Exponent

/-- An exponent is **well formed** when it has a mark, at most a sign, and digits. -/
structure IsWellFormed (x : Exponent) : Prop where
  mark : x.mark = 'e' ∨ x.mark = 'E'
  sign : x.sign = [] ∨ x.sign = ['+'] ∨ x.sign = ['-']
  digits : IsDigits x.digits
  hasDigit : x.digits ≠ []

theorem take?_eq_none_iff {cs : List Char} :
    take? cs = none ↔ ∀ c ∈ cs.head?, c ≠ 'e' ∧ c ≠ 'E' := by
  cases cs with
  | nil => simp [take?]
  | cons c cs => simp [take?]

theorem takeSign_eq (cs : List Char) :
    takeSign cs = [] ∨ takeSign cs = ['+'] ∨ takeSign cs = ['-'] := by
  unfold takeSign
  split
  · exact .inr (.inl rfl)
  · exact .inr (.inr rfl)
  · exact .inl rfl

theorem isWellFormed_take? {cs : List Char} {x : Exponent} (h : take? cs = some x)
    (hdigit : x.digits ≠ []) : x.IsWellFormed := by
  have hmark := mark_of_take? h
  cases cs with
  | nil => cases h
  | cons c cs =>
      rw [take?] at h
      split at h
      · cases h
        exact ⟨hmark, takeSign_eq cs, List.all_eq_true.mp List.all_takeWhile, hdigit⟩
      · cases h

/-- A sign in front of a digit is the whole sign. -/
theorem takeSign_append_digits {sign ds : List Char}
    (hsign : sign = [] ∨ sign = ['+'] ∨ sign = ['-']) (hds : IsDigits ds) (hne : ds ≠ [])
    (rest : List Char) : takeSign (sign ++ (ds ++ rest)) = sign := by
  rcases hsign with rfl | rfl | rfl
  · cases ds with
    | nil => exact absurd rfl hne
    | cons d ds =>
        have hd := hds d List.mem_cons_self
        unfold takeSign
        split
        · next heq =>
            obtain ⟨rfl, -⟩ := List.cons.inj heq
            cases hd
        · next heq =>
            obtain ⟨rfl, -⟩ := List.cons.inj heq
            cases hd
        · rfl
  · rfl
  · rfl

/-- The exponent at the front of a text that starts with a well-formed one goes on from there. -/
theorem take?_text_append {x : Exponent} (h : x.IsWellFormed) (rest : List Char) :
    take? (x.text ++ rest) = some ⟨x.mark, x.sign, x.digits ++ rest.takeWhile Char.isDigit⟩ := by
  have hsign := takeSign_append_digits h.sign h.digits h.hasDigit rest
  rw [text, List.append_assoc, List.cons_append, take?, if_pos h.mark]
  simp only [hsign, List.drop_left, List.takeWhile_append_of_pos h.digits]

/-- **The exponent at the front of a text**, if it has a digit, leads the text, and no other does.
-/
theorem leads_iff {x : Exponent} {cs : List Char} :
    Leads IsWellFormed text x cs ↔ take? cs = some x ∧ x.digits ≠ [] := by
  have hleads : ∀ y : Exponent, take? cs = some y → y.digits ≠ [] →
      Leads IsWellFormed text y cs := by
    intro y hy hdigit
    refine ⟨isWellFormed_take? hy hdigit, text_take?_isPrefix hy, ?_⟩
    rintro z hz ⟨rest, rfl⟩
    rw [take?_text_append hz rest] at hy
    obtain rfl := Option.some.inj hy
    simp [text]
  constructor
  · intro h
    obtain ⟨rest, hrest⟩ := h.2.1
    have htake := take?_text_append h.1 rest
    rw [hrest] at htake
    -- what leads the text has the characters of the exponent that is taken off it
    have hdigits : x.digits ++ rest.takeWhile Char.isDigit ≠ [] :=
      List.append_ne_nil_of_left_ne_nil h.1.hasDigit _
    have hlength := congrArg List.length (h.text_eq (hleads _ htake hdigits))
    have hnone : rest.takeWhile Char.isDigit = [] := by
      rw [← List.length_eq_zero_iff]
      simp only [text, List.length_append, List.length_cons] at hlength
      omega
    rw [hnone, List.append_nil] at htake
    exact ⟨htake, h.1.hasDigit⟩
  · rintro ⟨htake, hdigit⟩
    exact hleads x htake hdigit

end Exponent

/-! ## Numerals -/

/-- The characters of a numeral of a mantissa and perhaps an exponent. -/
def literalText (m : Mantissa) (x : Option Exponent) : List Char :=
  m.text ++ x.elim [] Exponent.text

/-- The number that a mantissa with an optional exponent writes. -/
def literalNumber (m : Mantissa) (x : Option Exponent) : ℚ :=
  digitsValue (m.whole ++ m.fraction) * 10 ^ (x.elim 0 Exponent.value - (m.fraction.length : ℤ))

/-- What **comes after** the mantissa of a numeral: no exponent mark, or an exponent. -/
inductive ExponentAt (cs : List Char) : Option Exponent → Prop
  | absent (h : ∀ c ∈ cs.head?, c ≠ 'e' ∧ c ≠ 'E') : ExponentAt cs none
  | present {x : Exponent} (h : Leads Exponent.IsWellFormed Exponent.text x cs) :
      ExponentAt cs (some x)

/-- A numeral **stands at** the front of a text: its mantissa leads the text, its exponent comes
after the mantissa, and no point comes after both. -/
structure NumeralAt (cs : List Char) (m : Mantissa) (x : Option Exponent) : Prop where
  mantissa : Leads Mantissa.IsWellFormed Mantissa.text m cs
  exponent : ExponentAt (cs.drop m.text.length) x
  point : (cs.drop (literalText m x).length).head? ≠ some '.'

theorem exponentAt_iff {cs : List Char} {x : Option Exponent} :
    ExponentAt cs x ↔ x = Exponent.take? cs ∧ x.any (·.digits.isEmpty) = false := by
  constructor
  · rintro (h | h)
    · exact ⟨(Exponent.take?_eq_none_iff.mpr h).symm, rfl⟩
    · obtain ⟨htake, hdigit⟩ := Exponent.leads_iff.mp h
      exact ⟨htake.symm, by simp [hdigit]⟩
  · rintro ⟨hx, hdigits⟩
    cases x with
    | none => exact .absent (Exponent.take?_eq_none_iff.mp hx.symm)
    | some x => exact .present (Exponent.leads_iff.mpr ⟨hx.symm, by simpa using hdigits⟩)

/-- A numeral stands at the front of a text when its parts are those that are taken off it. -/
theorem numeralAt_iff {cs : List Char} {m : Mantissa} {x : Option Exponent} : NumeralAt cs m x ↔
    (Mantissa.take cs).hasDigit = true ∧ m = Mantissa.take cs ∧ x = numeralExponent? cs ∧
      x.any (·.digits.isEmpty) = false ∧ (cs.drop (numeralText cs).length).head? ≠ some '.' := by
  constructor
  · rintro ⟨hmantissa, hexponent, hpoint⟩
    obtain ⟨hdigit, rfl⟩ := Mantissa.leads_iff.mp hmantissa
    obtain ⟨rfl, hdigits⟩ := exponentAt_iff.mp hexponent
    exact ⟨hdigit, rfl, rfl, hdigits, hpoint⟩
  · rintro ⟨hdigit, rfl, rfl, hdigits, hpoint⟩
    exact ⟨Mantissa.leads_iff.mpr ⟨hdigit, rfl⟩, exponentAt_iff.mpr ⟨rfl, hdigits⟩, hpoint⟩

/-- The value of a numeral is the double nearest to the number that it writes. -/
theorem numeralValue_eq_nearest_number {m : Mantissa} (h : m.IsWellFormed) (x : Option Exponent) :
    numeralValue m x = nearest (literalNumber m x) := by
  have hlt := digitsValue_lt (h.whole.append h.fraction)
  rw [List.length_append] at hlt
  unfold numeralValue
  dsimp only
  rw [scaled_eq_nearest _ hlt]
  cases x <;> rfl

/-- **What the scanner takes**: the numeral at the front of the text, when its value is finite. -/
theorem scanNumeral_eq_ok_iff {cs literal : List Char} {v : Float} :
    scanNumeral cs = .ok (v, literal) ↔ ∃ (m : Mantissa) (x : Option Exponent), NumeralAt cs m x ∧
      literal = literalText m x ∧ v = nearest (literalNumber m x) ∧ v.isFinite = true := by
  rw [scanNumeral_eq_ok]
  constructor
  · rintro ⟨hdigit, hdigits, hpoint, hfinite, rfl, rfl⟩
    refine ⟨_, _, numeralAt_iff.mpr ⟨hdigit, rfl, rfl, hdigits, hpoint⟩, rfl, ?_, hfinite⟩
    exact numeralValue_eq_nearest_number (Mantissa.isWellFormed_take hdigit) _
  · rintro ⟨m, x, hnumeral, rfl, hv, hfinite⟩
    obtain ⟨hdigit, rfl, rfl, hdigits, hpoint⟩ := numeralAt_iff.mp hnumeral
    rw [← numeralValue_eq_nearest_number (Mantissa.isWellFormed_take hdigit)] at hv
    exact ⟨hdigit, hdigits, hpoint, hfinite, hv, rfl⟩

/-! ## Numerals by themselves -/

/-- A text whose mantissa has a digit has no sign. -/
theorem readDecimal?_of_hasDigit {cs : List Char} (h : (Mantissa.take cs).hasDigit = true) :
    readDecimal? cs = readUnsigned? cs := by
  unfold readDecimal?
  split
  · cases h
  · cases h
  · rfl

/-- A text that is all numeral is read as its value. -/
theorem readUnsigned?_of_numeralText {cs : List Char} (hall : numeralText cs = cs)
    (hdigit : (Mantissa.take cs).hasDigit = true)
    (hdigits : (numeralExponent? cs).any (·.digits.isEmpty) = false) :
    readUnsigned? cs = some (numeralValue (Mantissa.take cs) (numeralExponent? cs)) := by
  have hrest : cs.drop (Mantissa.take cs).text.length =
      (numeralExponent? cs).elim [] Exponent.text := by
    calc cs.drop (Mantissa.take cs).text.length
        = (numeralText cs).drop (Mantissa.take cs).text.length := by rw [hall]
      _ = (numeralExponent? cs).elim [] Exponent.text := by rw [numeralText, List.drop_left]
  have hexponent : Exponent.take? (cs.drop (Mantissa.take cs).text.length) =
      numeralExponent? cs := rfl
  unfold readUnsigned?
  simp only [hdigit, if_true]
  cases hx : numeralExponent? cs with
  | none =>
      rw [hx, Option.elim_none] at hrest
      rw [hrest]
  | some x =>
      rw [hx, Option.elim_some] at hrest
      rw [hx, hrest] at hexponent
      rw [hx, Option.any_some] at hdigits
      rw [hrest]
      split
      · next hnil => exact absurd hnil (List.cons_ne_nil _ _)
      · simp [hexponent, hdigits]

/-- **What is scanned is read by itself** as the same value. -/
theorem readDecimal?_of_scanNumeral {cs literal : List Char} {v : Float}
    (h : scanNumeral cs = .ok (v, literal)) : readDecimal? literal = some v := by
  obtain ⟨hdigit, hdigits, -, -, rfl, hall⟩ := scanNumeral_eq_ok.mp (scanNumeral_alone h)
  rw [readDecimal?_of_hasDigit hdigit, readUnsigned?_of_numeralText hall.symm hdigit hdigits]

/-! ## Numerals in both languages -/

/-- A scanned numeral has characters. -/
theorem ne_nil_of_scanNumeral {cs literal : List Char} {v : Float}
    (h : scanNumeral cs = .ok (v, literal)) : literal ≠ [] := by
  rintro rfl
  cases scanNumeral_alone h

/-- A scanned numeral stands at the front of the text. -/
theorem isPrefix_of_scanNumeral {cs literal : List Char} {v : Float}
    (h : scanNumeral cs = .ok (v, literal)) : literal <+: cs := by
  rw [eq_numeralText_of_scanNumeral h]
  exact numeralText_isPrefix cs

theorem byteLength_pos_of_ne_nil {cs : List Char} (h : cs ≠ []) : 0 < byteLength cs := by
  cases cs with
  | nil => exact absurd rfl h
  | cons c cs =>
      have hpos := Char.utf8Size_pos c
      rw [byteLength_cons]
      omega

section

variable {L T : Type} {read : Char → List Char → Except Cause (L × Nat)}
  {token : L → List Char → Nat → T} {number : Float → L} {c : Char} {cs : List Char}
  (hread : ReadsNumerals read number) (hc : c.isDigit = true ∨ c = '.')
include hread hc

/-- A scan goes on behind a numeral, and its token comes first. -/
theorem scanWith_numeral {v : Float} {literal back : List Char}
    (h : scanNumeral (c :: cs) = .ok (v, literal)) (hback : literal ++ back = c :: cs)
    (offset : Nat) : scanWith read token offset (c :: cs) =
      (scanWith read token (offset + byteLength literal) back).map
        (token (number v) literal offset :: ·) := by
  have hlexeme := hread c cs hc
  rw [h] at hlexeme
  cases literal with
  | nil => exact absurd rfl (ne_nil_of_scanNumeral h)
  | cons d more =>
      rw [List.cons_append] at hback
      obtain ⟨hd, hmore⟩ := List.cons.inj hback
      have htake : cs.take more.length = more := by rw [← hmore, List.take_left]
      have hdrop : cs.drop more.length = back := by rw [← hmore, List.drop_left]
      rw [scanWith_read (isBlank_of_plain hc) hlexeme, List.length_cons, Nat.add_sub_cancel, htake,
        hdrop, hd]

/-- A scan ends where a numeral is at fault. -/
theorem scanWith_noNumeral {blamed : List Char} (h : scanNumeral (c :: cs) = .error blamed)
    (offset : Nat) : scanWith read token offset (c :: cs) =
      .error (.placed (.invalidNumeral (String.ofList blamed)) offset) := by
  have hlexeme := hread c cs hc
  rw [h] at hlexeme
  exact scanWith_unread (isBlank_of_plain hc) hlexeme offset

end

/-- **Numerals are recognised exactly.** Where a digit or a point starts in a text, a numeral is
scanned exactly when one stands there and the double nearest to its number is finite. This is the
value; it is what the characters of the numeral read as alone, and it has no minus sign. Both
languages then go on scanning behind the numeral, which ends in the text between two characters.
Where no numeral is scanned, both stop with a lexical fault at the place where it starts. -/
theorem numerals_recognised (front : List Char) {c : Char} (hc : c.isDigit = true ∨ c = '.')
    (cs : List Char) :
    (∀ (v : Float) (literal : List Char), scanNumeral (c :: cs) = .ok (v, literal) ↔
      ∃ (m : Mantissa) (x : Option Exponent), NumeralAt (c :: cs) m x ∧
        literal = literalText m x ∧ v = nearest (literalNumber m x) ∧ v.isFinite = true) ∧
    (∀ (v : Float) (literal : List Char), scanNumeral (c :: cs) = .ok (v, literal) →
      readDecimal? literal = some v ∧ hasMinus v = false ∧
      ∃ back : List Char, c :: cs = literal ++ back ∧
        byteLength front < byteLength (front ++ literal) ∧
        byteLength (front ++ literal) ≤ byteLength (front ++ c :: cs) ∧
        Condition.Token.scan (byteLength front) (c :: cs) =
          (Condition.Token.scan (byteLength (front ++ literal)) back).map
            (⟨.number v, String.ofList literal, byteLength front⟩ :: ·) ∧
        Formula.Token.scan (byteLength front) (c :: cs) =
          (Formula.Token.scan (byteLength (front ++ literal)) back).map
            (⟨.number v, byteLength front⟩ :: ·)) ∧
    ∀ blamed : List Char, scanNumeral (c :: cs) = .error blamed →
      ∃ fault : Fault, fault.cause.phase = .lexical ∧ fault.offset = some (byteLength front) ∧
        Condition.Token.scan (byteLength front) (c :: cs) = .error fault ∧
        Formula.Token.scan (byteLength front) (c :: cs) = .error fault := by
  refine ⟨fun v literal => scanNumeral_eq_ok_iff, fun v literal h => ?_, fun blamed h => ?_⟩
  · obtain ⟨back, hback⟩ := isPrefix_of_scanNumeral h
    have hpos := byteLength_pos_of_ne_nil (ne_nil_of_scanNumeral h)
    refine ⟨readDecimal?_of_scanNumeral h, (unsigned_of_scanNumeral h).2, back, hback.symm, ?_, ?_,
      ?_, ?_⟩
    · rw [byteLength_append]
      omega
    · rw [← hback, byteLength_append, byteLength_append, byteLength_append]
      omega
    · rw [byteLength_append]
      exact scanWith_numeral Condition.Lexeme.readsNumerals hc h hback _
    · rw [byteLength_append]
      exact scanWith_numeral Formula.Lexeme.readsNumerals hc h hback _
  · refine ⟨.placed (.invalidNumeral (String.ofList blamed)) (byteLength front), rfl, rfl, ?_, ?_⟩
    · exact scanWith_noNumeral Condition.Lexeme.readsNumerals hc h _
    · exact scanWith_noNumeral Formula.Lexeme.readsNumerals hc h _

/-- A numeral and a numeral that breaks off, both behind three bytes and in front of a product. -/
theorem numerals_recognised_scientificSample : ∃ v : Float,
    v = nearest 500 ∧ readDecimal? ".5E+3".toList = some v ∧
    Condition.Token.scan 3 ".5E+3*2".toList =
      (Condition.Token.scan 8 "*2".toList).map (⟨.number v, ".5E+3", 3⟩ :: ·) ∧
    Formula.Token.scan 3 ".5E+3*2".toList =
      (Formula.Token.scan 8 "*2".toList).map (⟨.number v, 3⟩ :: ·) ∧
    ∃ fault : Fault, fault.cause.phase = .lexical ∧ fault.offset = some 3 ∧
      Condition.Token.scan 3 "1.5e+*2".toList = .error fault ∧
      Formula.Token.scan 3 "1.5e+*2".toList = .error fault := by
  obtain ⟨hexact, hok, -⟩ := numerals_recognised "é<".toList (c := '.') (.inr rfl) "5E+3*2".toList
  obtain ⟨-, -, hfault⟩ := numerals_recognised "é<".toList (c := '1') (.inl rfl) ".5e+*2".toList
  have hscan : (scanNumeral ('.' :: "5E+3*2".toList)).toOption.map Prod.snd =
      some ".5E+3".toList := by
    decide +kernel
  have hnone : (scanNumeral ('1' :: ".5e+*2".toList)).toOption = none := by decide +kernel
  cases hnumeral : scanNumeral ('.' :: "5E+3*2".toList) with
  | error blamed =>
      rw [hnumeral] at hscan
      cases hscan
  | ok scanned =>
      obtain ⟨v, literal⟩ := scanned
      rw [hnumeral] at hscan
      obtain rfl : literal = ".5E+3".toList := Option.some.inj hscan
      obtain ⟨m, x, hat, -, hv, -⟩ := (hexact v _).mp hnumeral
      obtain ⟨hread, -, back, hback, -, -, hcondition, hformula⟩ := hok v _ hnumeral
      have hsplit : ".5E+3".toList ++ "*2".toList = ".5E+3".toList ++ back := by
        rw [← hback]
        decide +kernel
      obtain rfl : "*2".toList = back := List.append_cancel_left hsplit
      refine ⟨v, ?_, hread, hcondition, hformula, ?_⟩
      · obtain ⟨-, rfl, rfl, -⟩ := numeralAt_iff.mp hat
        have htake : Mantissa.take ('.' :: "5E+3*2".toList) = ⟨[], true, ['5']⟩ := by decide +kernel
        have hexponent : numeralExponent? ('.' :: "5E+3*2".toList) =
            some ⟨'E', ['+'], ['3']⟩ := by decide +kernel
        have hdigits : digitsValue ['5'] = 5 := rfl
        have hpower : Exponent.value ⟨'E', ['+'], ['3']⟩ = 3 := rfl
        rw [hv, htake, hexponent]
        norm_num [literalNumber, hdigits, hpower]
      · cases hblamed : scanNumeral ('1' :: ".5e+*2".toList) with
        | ok scanned =>
            rw [hblamed] at hnone
            cases hnone
        | error blamed => exact hfault blamed hblamed

end Tabular
