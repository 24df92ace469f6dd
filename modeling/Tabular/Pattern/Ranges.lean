import Tabular.Pattern.CharClass

set_option autoImplicit false

/-! # The ranges of a character class

A class of characters is written out as its **ranges**: a list of code point ranges in increasing
order, of which no two touch or overlap. Ranges start and end with characters. One that reaches past
the surrogates spans them, though they are no characters; two that end before and start after them
stay apart.
-/

namespace Tabular

/-- Puts a range into a list of ranges in increasing order, joining it to those it touches. -/
def insertRange (r : Nat × Nat) : List (Nat × Nat) → List (Nat × Nat)
  | [] => [r]
  | s :: rest =>
    if r.2 + 1 < s.1 then r :: s :: rest
    else if s.2 + 1 < r.1 then s :: insertRange r rest
    else insertRange (min r.1 s.1, max r.2 s.2) rest

/-- The ranges of the code points in some range or other of two lists, the second in order. -/
def uniteRanges (rs ss : List (Nat × Nat)) : List (Nat × Nat) := rs.foldr insertRange ss

/-- The code point of the character after that of a code point. -/
def codeAfter (n : Nat) : Nat := if n = 0xD7FF then 0xE000 else n + 1

/-- The code point of the character before that of a code point. -/
def codeBefore (n : Nat) : Nat := if n = 0xE000 then 0xD7FF else n - 1

/-- What lies between the ranges of a list in order, from a code point on. -/
def gapsFrom (next : Nat) : List (Nat × Nat) → List (Nat × Nat)
  | [] => if next ≤ 0x10FFFF then [(next, 0x10FFFF)] else []
  | r :: rest =>
    (if next < r.1 then [(next, codeBefore r.1)] else []) ++ gapsFrom (codeAfter r.2) rest

/-- The code points that two lists of ranges in order share. -/
def intersectRanges : List (Nat × Nat) → List (Nat × Nat) → List (Nat × Nat)
  | r :: rs, s :: ss =>
    (if max r.1 s.1 ≤ min r.2 s.2 then [(max r.1 s.1, min r.2 s.2)] else []) ++
      if r.2 < s.2 then intersectRanges rs (s :: ss) else intersectRanges (r :: rs) ss
  | _, _ => []
termination_by rs ss => rs.length + ss.length

/-- The code points of one list of ranges in order that are not in another. -/
def subtractRanges (rs ss : List (Nat × Nat)) : List (Nat × Nat) :=
  intersectRanges rs (gapsFrom 0 ss)

/-- Every move of the simple case folding: a code point and the one that stands for it. -/
def foldMoves : List (Nat × Nat) :=
  foldRuns.flatMap fun r =>
    (List.range' r.first ((r.last - r.first) / r.step + 1) r.step).map fun n =>
      (n, ((n : Int) + r.shift).toNat)

/-- Adds to some ranges all that is equal up to case to one of their characters: first what stands
for it, then whatever that stands for. -/
def closeRangesUnderCase (rs : List (Nat × Nat)) : List (Nat × Nat) :=
  let within (ranges : List (Nat × Nat)) (n : Nat) : Bool := ranges.any fun r => r.1 ≤ n && n ≤ r.2
  let folded := foldMoves.filter fun move => within rs move.1
  let rs := uniteRanges (folded.map fun move => (move.2, move.2)) rs
  let origins := foldMoves.filter fun move => within rs move.2
  uniteRanges (origins.map fun move => (move.1, move.1)) rs

namespace CharClass

/-- The ranges of a class. -/
def toRanges : CharClass → List (Nat × Nat)
  | range low high => if low ≤ high then [(low, high)] else []
  | table s => uniteRanges s.ranges []
  | union a b => uniteRanges a.toRanges b.toRanges
  | inter a b => intersectRanges a.toRanges b.toRanges
  | diff a b => subtractRanges a.toRanges b.toRanges
  | symmDiff a b =>
    subtractRanges (uniteRanges a.toRanges b.toRanges) (intersectRanges a.toRanges b.toRanges)
  | compl a => gapsFrom 0 a.toRanges
  | sameCase c => uniteRanges ((caseVariants c).map fun d => (d.toNat, d.toNat)) []
  | anyCase a => closeRangesUnderCase a.toRanges
  | anyAsciiCase a =>
    let upper := intersectRanges a.toRanges [(0x41, 0x5A)]
    let lower := intersectRanges a.toRanges [(0x61, 0x7A)]
    uniteRanges (upper.map fun r => (r.1 + 0x20, r.2 + 0x20))
      (uniteRanges (lower.map fun r => (r.1 - 0x20, r.2 - 0x20)) a.toRanges)

/-- A number of ranges that a class does not exceed, found without writing them out. -/
def rangeBound : CharClass → Nat
  | range _ _ => 2
  | table s => s.ranges.length + 1
  | union a b | inter a b | diff a b => a.rangeBound + b.rangeBound
  | symmDiff a b => 2 * (a.rangeBound + b.rangeBound)
  | compl a => a.rangeBound + 1
  | sameCase _ => 4
  | anyCase a => a.rangeBound + 2 * foldMoves.length
  | anyAsciiCase a => 3 * a.rangeBound

/-- The negation of a class. Where two ranges of the class end before the surrogates and start after
them, the gap between them has no characters of its own, and the two characters at its ends are
taken for it. -/
def negation (s : CharClass) : CharClass :=
  if s.contains '\uD7FF' && s.contains '\uE000' && s.toRanges.any (·.2 = 0xD7FF) then
    union (compl s) (range 0xD7FF 0xE000)
  else compl s

end CharClass

end Tabular
