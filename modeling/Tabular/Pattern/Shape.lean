import Tabular.Pattern.Basic
import Tabular.Pattern.Ranges
import Tabular.Text.Utf8

set_option autoImplicit false

/-! # Shapes of patterns

The **shape** of a pattern is the pattern as it is built into an automaton. It keeps what decides
the size of the automaton and drops the rest: parts that consume nothing vanish from sequences,
neighbouring characters form one literal, a choice between characters or between classes is one
class, and a beginning that all branches of a choice have in common is taken out of it.

A sequence is written with `seq` to the right, and so is a choice with `alt`: the parts of a
sequence are no sequences, and the branches of a choice are no choices.
-/

namespace Tabular

/-- The **shape** of a pattern. -/
inductive Shape where
  | empty
  /-- Some characters, one after the other; at least one. -/
  | literal (cs : List Char)
  /-- One character in some ranges; not exactly one character. With `unicode` off, the ranges hold
  bytes. -/
  | set (unicode : Bool) (ranges : List (Nat × Nat))
  | look (l : Look)
  | seq (s t : Shape)
  | alt (s t : Shape)
  | repeated (s : Shape) (min : Nat) (max : Option Nat) (few : Bool)
  | capture (s : Shape)
deriving DecidableEq, Repr

namespace Shape

/-- The shape of a class, given its ranges. All classes without characters have the same. -/
def ofRanges (unicode : Bool) : List (Nat × Nat) → Shape
  | [] => set true []
  | [(low, high)] => if low = high then literal [Char.ofNat low] else set unicode [(low, high)]
  | ranges => set unicode ranges

/-! ## Sequences -/

/-- The parts of a sequence. -/
def parts : Shape → List Shape
  | empty => []
  | seq s t => s :: t.parts
  | s => [s]

/-- One shape after the other. -/
def append : Shape → Shape → Shape
  | empty, t => t
  | seq s rest, t => seq s (rest.append t)
  | s, empty => s
  | literal cs, literal ds => literal (cs ++ ds)
  | literal cs, seq (literal ds) rest => seq (literal (cs ++ ds)) rest
  | s, t => seq s t

/-- The sequence of some shapes. -/
def ofParts (shapes : List Shape) : Shape := shapes.foldr append empty

/-! ## Choices -/

/-- The branches of a choice. -/
def branches : Shape → List Shape
  | alt s t => s :: t.branches
  | s => [s]

/-- The choice between some branches, as they are. -/
def choice : List Shape → Shape
  | [] => set true []
  | [s] => s
  | s :: rest => alt s (choice rest)

/-- Whether a shape is a single character. -/
def singleChar? : Shape → Option Char
  | literal [c] => some c
  | _ => none

/-- The ranges of a shape that is a class. -/
def ranges? : Shape → Option (List (Nat × Nat))
  | set _ ranges => some ranges
  | _ => none

/-- The one class that some branches amount to, if all are characters or all are classes. -/
def mergedClass? (shapes : List Shape) : Option Shape :=
  match shapes.mapM singleChar?, shapes.mapM ranges? with
  | some cs, _ => some (ofRanges true (uniteRanges (cs.map fun c => (c.toNat, c.toNat)) []))
  | none, some ranges => some (ofRanges true (ranges.foldr uniteRanges []))
  | none, none => none

/-- Whether a captured group occurs in a shape. Two captured groups are never the same. -/
def captures : Shape → Bool
  | empty | literal _ | set _ _ | look _ => false
  | seq s t | alt s t => s.captures || t.captures
  | repeated s _ _ _ => s.captures
  | capture _ => true

/-- The parts that two sequences begin with. -/
def commonParts : List Shape → List Shape → List Shape
  | s :: ss, t :: ts => if s = t && !s.captures then s :: commonParts ss ts else []
  | _, _ => []

/-- The parts that all branches begin with, if all branches are sequences. -/
def commonBeginning : List Shape → List Shape
  | [] => []
  | s :: rest =>
    if (s :: rest).all (2 ≤ ·.parts.length) then
      rest.foldl (fun common t => commonParts common t.parts) s.parts
    else []

/-- The choice between some shapes. -/
def ofBranches (shapes : List Shape) : Shape :=
  match shapes.flatMap branches with
  | [s] => s
  | shapes =>
    let merged (shapes : List Shape) : Shape := (mergedClass? shapes).getD (choice shapes)
    let beginning := commonBeginning shapes
    if beginning.isEmpty then merged shapes
    else
      let rests := shapes.map fun s => ofParts (s.parts.drop beginning.length)
      (ofParts beginning).append (merged (rests.flatMap branches))

/-! ## How much a shape consumes -/

/-- The least number of bytes that a shape consumes, or none if it can never match. -/
def leastLength : Shape → Option Nat
  | empty | look _ => some 0
  | literal cs => some (utf8Bytes cs).length
  | set _ ranges => ranges.head?.map fun r => (Char.ofNat r.1).utf8Size
  | seq s t => do pure ((← s.leastLength) + (← t.leastLength))
  | alt s t => do pure (Nat.min (← s.leastLength) (← t.leastLength))
  | repeated s min _ _ => s.leastLength.map (· * min)
  | capture s => s.leastLength

/-- Whether a shape can match and never consumes a byte. -/
def consumesNothing : Shape → Bool
  | empty | look _ => true
  | literal _ | set _ _ => false
  | seq s t | alt s t => s.consumesNothing && t.consumesNothing
  | repeated s _ max _ => max.isSome && s.consumesNothing
  | capture s => s.consumesNothing

/-- A shape repeated. To repeat what consumes nothing more than once has no effect. -/
def ofRepetition (s : Shape) (min : Nat) (max : Option Nat) (few : Bool) : Shape :=
  let (min, max) := if s.consumesNothing then (Nat.min min 1, some ((max.map (Nat.min · 1)).getD 1))
    else (min, max)
  if min = 0 ∧ max = some 0 then empty
  else if min = 1 ∧ max = some 1 then s
  else repeated s min max few

/-! ## Anchors -/

/-- Whether every match begins where an assertion holds that stands at the beginning. -/
def beginsWith (l : Look) : Shape → Bool
  | empty | literal _ | set _ _ => false
  | look k => k = l
  | seq s t => s.beginsWith l || (s.consumesNothing && t.beginsWith l)
  | alt s t => s.beginsWith l && t.beginsWith l
  | repeated s min _ _ => min != 0 && s.beginsWith l
  | capture s => s.beginsWith l

/-- Whether every match ends where an assertion holds that stands at the end. -/
def endsWith (l : Look) : Shape → Bool
  | empty | literal _ | set _ _ => false
  | look k => k = l
  | seq s t => t.endsWith l || (t.consumesNothing && s.endsWith l)
  | alt s t => s.endsWith l && t.endsWith l
  | repeated s min _ _ => min != 0 && s.endsWith l
  | capture s => s.endsWith l

end Shape

/-! ## The shape of a pattern -/

namespace Pattern

/-- The shapes of the branches of a pattern. -/
def branchShapes : Pattern → List Shape
  | empty => [.empty]
  | char unicode s => [.ofRanges unicode s.toRanges]
  | look l => [.look l]
  | seq p q => [(Shape.ofBranches p.branchShapes).append (.ofBranches q.branchShapes)]
  | alt p q => .ofBranches p.branchShapes :: q.branchShapes
  | repeated p min max few => [.ofRepetition (.ofBranches p.branchShapes) min max few]
  | group captured p =>
    let s := Shape.ofBranches p.branchShapes
    [if captured then .capture s else s]

/-- The **shape** of a pattern. -/
def shape (p : Pattern) : Shape := .ofBranches p.branchShapes

end Pattern

end Tabular
