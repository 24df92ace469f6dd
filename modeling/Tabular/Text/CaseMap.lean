set_option autoImplicit false

/-! # Case maps

A case map sends characters to characters. It is written as runs: every character of a run, from
its first to its last in equal steps, is moved by the same distance.
-/

namespace Tabular

/-- A run of characters that a case map moves by one distance. -/
structure CaseRun where
  first : Nat
  last : Nat
  step : Nat
  shift : Int
deriving DecidableEq, Repr

namespace CaseRun

/-- Whether a code point belongs to a run. -/
def covers (r : CaseRun) (n : Nat) : Bool :=
  r.first ≤ n && n ≤ r.last && (n - r.first) % r.step == 0

/-- The code point that a run moves to a given one. -/
def origin? (r : CaseRun) (n : Nat) : Option Nat :=
  let m := ((n : Int) - r.shift).toNat
  if r.covers m && (m : Int) + r.shift == n then some m else none

end CaseRun

/-- The character that a case map sends a character to. The runs stand in increasing order of
their first characters; a character in no run stays as it is. -/
def applyRuns : List CaseRun → Char → Char
  | [], c => c
  | r :: runs, c =>
    if c.toNat < r.first then c
    else if r.covers c.toNat then Char.ofNat ((c.toNat : Int) + r.shift).toNat
    else applyRuns runs c

/-- The characters that some run may send to a character. -/
def originsOf (runs : List CaseRun) (c : Char) : List Char :=
  runs.filterMap fun r => (r.origin? c.toNat).map Char.ofNat

end Tabular
