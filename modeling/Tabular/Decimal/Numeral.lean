set_option autoImplicit false

/-! # Decimal numerals

A numeral is a run of digits with at most one point, optionally followed by an exponent mark
with a signed run of digits. This file takes numerals apart and gives them their value, the
double nearest to the decimal they write (`scaled`). It has two readers:

* `readDecimal?` reads a whole text, with an optional sign, as the cells of a table do;
* `scanNumeral` takes the longest numeral off the front of a text, as the two tokenizers do, and
  reports the offending characters when the text there is not a numeral.
-/

namespace Tabular

/-! ## Digits -/

/-- The number that a run of decimal digits writes. -/
def digitsValue (ds : List Char) : Nat :=
  ds.foldl (fun n d => 10 * n + (d.toNat - '0'.toNat)) 0

/-- The double nearest to `n · 10^e`, where `n` has at most `width` digits. Exponents are cut off
where the result is infinite or zero whatever the digits are, so no power grows without bound. -/
def scaled (n : Nat) (e : Int) (width : Nat) : Float :=
  if 0 ≤ e then Float.ofScientific n false (min e.toNat 400)
  else Float.ofScientific n true (min e.natAbs (400 + width))

/-! ## The parts of a numeral -/

/-- The digits of a numeral: those before the point, whether there is a point, and those after
it. -/
structure Mantissa where
  whole : List Char
  point : Bool
  fraction : List Char
deriving Repr, DecidableEq

namespace Mantissa

/-- The characters of a mantissa. -/
def text (m : Mantissa) : List Char :=
  m.whole ++ if m.point then '.' :: m.fraction else []

/-- A mantissa needs a digit on at least one side of its point. -/
def hasDigit (m : Mantissa) : Bool := !(m.whole.isEmpty && m.fraction.isEmpty)

/-- The longest mantissa, possibly without any digit, at the front of a text. -/
def take (cs : List Char) : Mantissa :=
  match cs.dropWhile Char.isDigit with
  | '.' :: rest => ⟨cs.takeWhile Char.isDigit, true, rest.takeWhile Char.isDigit⟩
  | _ => ⟨cs.takeWhile Char.isDigit, false, []⟩

end Mantissa

/-- The exponent of a numeral: its mark, its optional sign and its digits. -/
structure Exponent where
  mark : Char
  sign : List Char
  digits : List Char
deriving Repr, DecidableEq

namespace Exponent

/-- The characters of an exponent. -/
def text (x : Exponent) : List Char := x.mark :: x.sign ++ x.digits

/-- The power of ten that an exponent stands for. -/
def value (x : Exponent) : Int :=
  if x.sign = ['-'] then -(digitsValue x.digits : Int) else digitsValue x.digits

/-- The optional sign at the front of a text. -/
def takeSign : List Char → List Char
  | '+' :: _ => ['+']
  | '-' :: _ => ['-']
  | _ => []

/-- The exponent at the front of a text, when the text starts with an exponent mark. Its digits
may be missing. -/
def take? : List Char → Option Exponent
  | c :: rest =>
    if c = 'e' ∨ c = 'E' then
      let sign := takeSign rest
      some ⟨c, sign, (rest.drop sign.length).takeWhile Char.isDigit⟩
    else none
  | [] => none

end Exponent

/-- The value of a mantissa with an optional exponent. -/
def numeralValue (m : Mantissa) (x : Option Exponent) : Float :=
  let power : Int := match x with
    | some x => x.value
    | none => 0
  scaled (digitsValue (m.whole ++ m.fraction)) (power - m.fraction.length)
    (m.whole.length + m.fraction.length)

/-! ## Reading a whole text -/

/-- The value of a text that is a numeral from its first to its last character. -/
def readUnsigned? (cs : List Char) : Option Float :=
  let m := Mantissa.take cs
  if m.hasDigit then
    match cs.drop m.text.length with
    | [] => some (numeralValue m none)
    | rest =>
      match Exponent.take? rest with
      | some x =>
        if x.digits.isEmpty || x.text.length != rest.length then none
        else some (numeralValue m (some x))
      | none => none
  else none

/-- The value of a text that is a numeral with an optional sign. The value may be infinite. -/
def readDecimal? : List Char → Option Float
  | '+' :: rest => readUnsigned? rest
  | '-' :: rest => (readUnsigned? rest).map (- ·)
  | cs => readUnsigned? cs

/-! ## Scanning the front of a text -/

/-- The numeral at the front of a text: its value and its characters. It fails, with the
characters to blame, on a mantissa without digits, an exponent without digits, a second point
and a value that is not finite. -/
def scanNumeral (cs : List Char) : Except (List Char) (Float × List Char) :=
  let m := Mantissa.take cs
  if m.hasDigit then
    let x := Exponent.take? (cs.drop m.text.length)
    let text := m.text ++ (x.elim [] Exponent.text)
    if x.any (·.digits.isEmpty) then .error text
    else if (cs.drop text.length).head? = some '.' then .error (text ++ ['.'])
    else
      let v := numeralValue m x
      if v.isFinite then .ok (v, text) else .error text
  else .error m.text

end Tabular
