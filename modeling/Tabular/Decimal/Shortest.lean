import Tabular.Decimal.Numeral

set_option autoImplicit false

/-! # The shortest decimal text of a number

A double is written with the fewest decimal digits that read back as the same double; among
those of that length the nearest to the double is taken, and the upper one when two are equally
near. The text is always positional: no exponent is ever written.

For each digit count from one on, the only decimals worth testing are the two neighbours of the
double on the grid of that many digits. When no grid up to seventeen digits has a neighbour that
reads back, the exact decimal expansion of the double is used.
-/

namespace Tabular

/-! ## A finite double as a fraction -/

/-- The magnitude of a finite double as a fraction of natural numbers. -/
structure Fraction where
  num : Nat
  den : Nat
deriving Repr, DecidableEq

/-- The exact magnitude of a finite double: its significand times a power of two. -/
def Fraction.ofFloat (v : Float) : Fraction :=
  let bits := v.toBits.toNat
  let unit := 1 <<< 52
  let field := bits / unit % 2048
  let low := bits % unit
  let significand := if field = 0 then low else unit + low
  let power := max field 1
  if 1075 ≤ power then ⟨significand <<< (power - 1075), 1⟩
  else ⟨significand, 1 <<< (1075 - power)⟩

/-- The number of decimal digits of a natural number; zero has one. -/
def digitCount (n : Nat) : Nat := (Nat.toDigits 10 n).length

/-- The exponent `k` with `10^(k-1) ≤ q < 10^k` of a positive fraction `q`. -/
def Fraction.exponent (q : Fraction) : Int :=
  if q.den ≤ q.num then digitCount (q.num / q.den)
  else 1 - (digitCount ((q.den - 1) / q.num) : Int)

/-! ## Decimals -/

/-- A decimal `digits · 10^power`. -/
structure Decimal where
  digits : Nat
  power : Int
deriving Repr, DecidableEq

namespace Decimal

/-- The double that a decimal reads as. -/
def value (d : Decimal) : Float := scaled d.digits d.power (digitCount d.digits)

/-- The upper neighbour of a decimal on its own grid. -/
def next (d : Decimal) : Decimal := ⟨d.digits + 1, d.power⟩

/-- The greatest decimal with the given power that is at most `q`, and twice its distance from
`q` compared with the width of the grid. -/
def floorAt (q : Fraction) (power : Int) : Decimal × Ordering :=
  let num := if 0 ≤ power then q.num else q.num * Nat.pow 10 power.natAbs
  let den := if 0 ≤ power then q.den * Nat.pow 10 power.toNat else q.den
  (⟨num / den, power⟩, compare (2 * (num % den)) den)

/-- The decimal with `count` digits that is nearest to `v` among those that read back as `v`. -/
def nearest? (v : Float) (q : Fraction) (count : Nat) : Option Decimal :=
  let (low, half) := floorAt q (q.exponent - count)
  match low.value == v, low.next.value == v with
  | true, true => if half = .lt then some low else some low.next
  | true, false => some low
  | false, true => some low.next
  | false, false => none

/-- The exact decimal expansion of a fraction whose denominator divides a power of ten. -/
def exact (q : Fraction) : Decimal :=
  let places := Nat.log2 q.den
  ⟨q.num * Nat.pow 5 places, -(places : Int)⟩

/-- The shortest decimal that reads back as the positive finite double `v`. -/
def shortest (v : Float) : Decimal :=
  let q := Fraction.ofFloat v
  ((List.range' 1 17).findSome? (nearest? v q)).getD (exact q)

/-- A decimal in positional notation, without a point when no digit but zero follows it. -/
def positional (d : Decimal) : List Char :=
  let zeros := ((Nat.toDigits 10 d.digits).reverse.takeWhile (· == '0')).length
  let digits := (Nat.toDigits 10 d.digits).take (digitCount d.digits - zeros)
  let power : Int := d.power + zeros
  if 0 ≤ power then digits ++ List.replicate power.toNat '0'
  else
    let places := power.natAbs
    if places < digits.length then
      digits.take (digits.length - places) ++ '.' :: digits.drop (digits.length - places)
    else '0' :: '.' :: List.replicate (places - digits.length) '0' ++ digits

end Decimal

/-! ## The text of a number -/

/-- The characters of a number that is not negative. -/
def showMagnitude (v : Float) : List Char :=
  if v.isInf then ['i', 'n', 'f']
  else if v == 0 then ['0']
  else (Decimal.shortest v).positional

/-- Whether a number has a minus sign, as `-0` has too. -/
def hasMinus (v : Float) : Bool := v.toBits >>> 63 == 1

/-- The text of a number: the shortest digits that read back, in positional notation; `-0`, `inf`
and `-inf` keep their sign and not-a-number has none. -/
def showNumber (v : Float) : String :=
  if v.isNaN then "NaN"
  else if hasMinus v then String.ofList ('-' :: showMagnitude (-v))
  else String.ofList (showMagnitude v)

end Tabular
