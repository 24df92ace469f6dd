set_option autoImplicit false

/-! # Sets of code points

A set of code points is a list of ranges, both ends included. Long tables are written as **runs**:
the lengths, in turn, of the stretches of code points outside and inside the set, from code point
zero on.
-/

namespace Tabular

/-- A set of code points, as inclusive ranges. -/
structure CodeSet where
  ranges : List (Nat × Nat)
deriving DecidableEq, Repr, Inhabited

namespace CodeSet

/-- Whether a character is in a set. -/
def contains (s : CodeSet) (c : Char) : Bool :=
  s.ranges.any fun r => r.1 ≤ c.toNat && c.toNat ≤ r.2

/-- The union of some sets. -/
def unionAll (sets : List CodeSet) : CodeSet := ⟨sets.flatMap ranges⟩

/-- The decimal numbers in a text, in order; any other character separates them. -/
def numbersIn (text : String) : List Nat :=
  let close (number : Option Nat) (found : List Nat) : List Nat :=
    match number with
    | some n => n :: found
    | none => found
  let (number, found) := text.toList.foldl (fun (number, found) c =>
    if c.isDigit then (some (10 * number.getD 0 + (c.toNat - '0'.toNat)), found)
    else (none, close number found)) ((none : Option Nat), ([] : List Nat))
  (close number found).reverse

/-- The ranges that runs describe, from a code point on. -/
def rangesOfRuns (start : Nat) : List Nat → List (Nat × Nat)
  | gap :: length :: rest =>
    (start + gap, start + gap + length - 1) :: rangesOfRuns (start + gap + length) rest
  | _ => []

/-- The set that the runs in a text describe. -/
def ofRuns (text : String) : CodeSet := ⟨rangesOfRuns 0 (numbersIn text)⟩

end CodeSet

end Tabular
