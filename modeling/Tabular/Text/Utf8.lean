set_option autoImplicit false

/-! # Ranges of characters in UTF-8

The characters of a range are written in UTF-8 by a few sequences of byte ranges: a sequence writes
every character whose first byte lies in its first range, whose second byte lies in its second, and
so on. The sequences stand in increasing order, and no character is written by two of them. The
surrogates in a range are no characters and are not written.
-/

namespace Tabular

/-- A sequence of byte ranges. -/
abbrev ByteSequence := List (Nat × Nat)

/-- The sequences of ranges of digits to base 64 that together write the numbers from `low` to
`high` with the given number of digits after the first. -/
def digitSequences : Nat → Nat → Nat → List (List (Nat × Nat))
  | 0, low, high => [[(low, high)]]
  | digits + 1, low, high =>
    let block := Nat.pow 64 (digits + 1)
    let first := low / block
    let last := high / block
    if first = last then
      (digitSequences digits (low % block) (high % block)).map ((first, first) :: ·)
    else
      let head := if low % block = 0 then []
        else (digitSequences digits (low % block) (block - 1)).map ((first, first) :: ·)
      let tail := if high % block = block - 1 then []
        else (digitSequences digits 0 (high % block)).map ((last, last) :: ·)
      let first := if low % block = 0 then first else first + 1
      let last := if high % block = block - 1 then last + 1 else last
      let middle := if first < last then
        [(first, last - 1) :: List.replicate (digits + 1) (0, 63)] else []
      head ++ middle ++ tail

/-- The bytes that write a sequence of digits: the first is marked with the length of the sequence,
the others as continuations. -/
def markDigits (mark : Nat) : List (Nat × Nat) → ByteSequence
  | [] => []
  | (low, high) :: rest =>
    (mark + low, mark + high) :: rest.map fun r => (0x80 + r.1, 0x80 + r.2)

/-- The byte sequences that write the characters of a range, in increasing order. -/
def byteSequences (low high : Nat) : List ByteSequence :=
  [(0, 0x7F, 0, 0), (0x80, 0x7FF, 1, 0xC0), (0x800, 0xD7FF, 2, 0xE0), (0xE000, 0xFFFF, 2, 0xE0),
    (0x10000, 0x10FFFF, 3, 0xF0)] |>.flatMap fun (least, greatest, digits, mark) =>
      if max low least ≤ min high greatest then
        (digitSequences digits (max low least) (min high greatest)).map (markDigits mark)
      else []

/-- The bytes of a text in UTF-8. -/
def utf8Bytes (cs : List Char) : List Nat :=
  cs.flatMap fun c => (String.utf8EncodeChar c).map UInt8.toNat

end Tabular
