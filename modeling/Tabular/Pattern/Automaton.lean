import Std.Data.HashMap
import Tabular.Pattern.Shape

set_option autoImplicit false

/-! # The automaton of a shape

A shape is built into an automaton that reads bytes, forwards or **backwards**. Only the size of
the automaton matters here, so building adds up a `Tally` of its states and of the bytes they take.

Every part of a shape has states of its own, and a repetition has those of its body once for each
time it counts. States that branch take more room with every branch, also with one that is added
when a later part is attached to their end.

A class is built from the byte sequences that write its characters. Sequences share states, as far
as a `Memory` of limited size remembers the states that were built: forwards the states that agree
in all that follows them, backwards those that agree in all that they lead to.
-/

namespace Tabular

/-! ## Tallies -/

/-- What has been built of an automaton: how many states, and how many bytes they take. -/
structure Tally where
  states : Nat
  bytes : Nat
deriving DecidableEq, Repr

/-- The greatest size of an automaton, in bytes. -/
def sizeLimit : Nat := 10 * 1024 * 1024

namespace Tally

/-- One more state, with room for a number of byte edges. -/
def addState (t : Tally) (edges : Nat) : Tally := ⟨t.states + 1, t.bytes + 32 + 8 * edges⟩

/-- More states without byte edges of their own. -/
def addStates (t : Tally) (count : Nat) : Tally := ⟨t.states + count, t.bytes + 32 * count⟩

/-- More branches of states that branch. -/
def addBranches (t : Tally) (count : Nat) : Tally := { t with bytes := t.bytes + 4 * count }

/-- Builds the same thing again and again, unless the size has passed the limit already. -/
def times (build : Tally → Tally) : Nat → Tally → Tally
  | 0, t => t
  | count + 1, t => if sizeLimit < t.bytes then t else times build count (build t)

end Tally

/-! ## Shared states -/

/-- A **memory** of states that have been built, each under a key of numbers that says what it
does. It has a fixed number of places; a key's place is a hash of its numbers, and a new entry
displaces the old one in its place. -/
structure Memory where
  size : Nat
  entries : Std.HashMap Nat (List Nat × Nat)

namespace Memory

/-- A memory that remembers nothing yet. -/
def ofSize (size : Nat) : Memory := ⟨size, ∅⟩

/-- The place of a key: its numbers one after the other, each combined with the hash so far by
exclusive or, and the result multiplied by a prime. -/
def place (m : Memory) (key : List Nat) : Nat :=
  let step (hash : UInt64) (n : Nat) : UInt64 := (hash ^^^ n.toUInt64) * 0x100000001B3
  (key.foldl step 0xCBF29CE484222325).toNat % m.size

/-- The state under a key, if it is remembered. -/
def find? (m : Memory) (key : List Nat) : Option Nat :=
  match m.entries[m.place key]? with
  | some (other, state) => if other = key then some state else none
  | none => none

/-- Remembers a state under a key. -/
def store (m : Memory) (key : List Nat) (state : Nat) : Memory :=
  { m with entries := m.entries.insert (m.place key) (key, state) }

end Memory

/-- What has been built, with the states that can be shared. -/
structure Sharing where
  tally : Tally
  memory : Memory

namespace Sharing

/-- The state under a key: one that is remembered, or else a new one with room for some edges. -/
def state (b : Sharing) (key : List Nat) (edges : Nat) : Nat × Sharing :=
  match b.memory.find? key with
  | some state => (state, b)
  | none => (b.tally.states, ⟨b.tally.addState edges, b.memory.store key b.tally.states⟩)

end Sharing

/-! ## Classes -/

/-- Groups neighbouring byte sequences with the same first range, and leaves out that range. -/
def groupByFirst : List ByteSequence → List ((Nat × Nat) × List ByteSequence)
  | [] => []
  | [] :: rest => groupByFirst rest
  | (r :: tail) :: rest =>
    match groupByFirst rest with
    | (s, tails) :: groups =>
      if r = s then (s, tail :: tails) :: groups else (r, [tail]) :: (s, tails) :: groups
    | [] => [(r, [tail])]

namespace Sharing

/-- The state from which some byte sequences lead to a target, given a bound on their length. The
states after a byte are built before the state that the byte leaves. -/
def forwardState (target : Nat) : Nat → List ByteSequence → Sharing → Nat × Sharing
  | 0, _, b => (target, b)
  | length + 1, sequences, b =>
    if sequences.all List.isEmpty then (target, b)
    else
      let groups := groupByFirst sequences
      let (key, b) := groups.foldl (fun (key, b) (r, tails) =>
        let (next, b) := forwardState target length tails b
        (key ++ [r.1, r.2, next], b)) (([] : List Nat), b)
      b.state key groups.length

/-- Leads from a state back through the ranges of a byte sequence, the first of them next to that
state. -/
def backwardStates (target : Nat) (sequence : ByteSequence) (b : Sharing) : Nat × Sharing :=
  sequence.foldl (fun (next, b) r => b.state [next, r.1, r.2] 0) (target, b)

end Sharing

/-- Builds a class. One of ASCII characters takes two states, whatever the direction. -/
def Tally.addClass (backward : Bool) (ranges : List (Nat × Nat)) (t : Tally) : Tally :=
  let sequences := ranges.flatMap fun r => byteSequences r.1 r.2
  if ranges.all (·.2 < 0x80) then (t.addState 0).addState ranges.length
  else if backward then
    let target := t.states + 1
    (sequences.foldl (fun b sequence =>
      let b := (Sharing.backwardStates target sequence b).2
      { b with tally := b.tally.addBranches 1 }) ⟨t.addStates 2, .ofSize 1000⟩).tally
  else (Sharing.forwardState t.states 4 sequences ⟨t.addState 0, .ofSize 10000⟩).2.tally

/-! ## Literals -/

/-- Splits a list of words at the empty ones. -/
def splitAtEmpty : List (List Nat) → List (List (List Nat))
  | [] => [[]]
  | [] :: rest => [] :: splitAtEmpty rest
  | word :: rest =>
    match splitAtEmpty rest with
    | chunk :: chunks => (word :: chunk) :: chunks
    | [] => [[word]]

/-- Builds the node of a tree of words, given what is left of the words below it, in the order of
their preference, and a bound on their length. An empty word ends at the node; the words before it
are preferred to it and those after it are not, so they do not share their edges. -/
def Tally.addTree : Nat → List (List Nat) → Tally → Tally
  | 0, _, t => t
  | length + 1, words, t =>
    let ending := words.takeWhile List.isEmpty
    let chunks := splitAtEmpty (ending.take 1 ++ words.drop ending.length)
    let edges := chunks.map fun chunk => (chunk.filterMap List.head?).eraseDups
    let t := (chunks.zip edges).foldl (fun t (chunk, firsts) =>
      let t := firsts.foldl (fun t first =>
        let below := chunk.filterMap fun word =>
          if word.head? = some first then some word.tail else none
        if below.all List.isEmpty then t else addTree length below t) t
      if firsts.isEmpty then t
      else t.addState (if firsts.length = 1 then 0 else firsts.length)) t
    (t.addState 0).addBranches (edges.countP (!·.isEmpty) + (chunks.length - 1))

/-- Builds a choice between literals: a tree of their bytes. -/
def Tally.addLiterals (backward : Bool) (literals : List (List Char)) (t : Tally) : Tally :=
  let words := literals.map fun cs => if backward then (utf8Bytes cs).reverse else utf8Bytes cs
  (t.addState 0).addTree ((words.map List.length).foldl max 0 + 1) words

/-! ## Shapes -/

namespace Shape

/-- The characters of a literal. -/
def literal? : Shape → Option (List Char)
  | literal cs => some cs
  | _ => none

/-- Whether the automaton of a shape ends in a state that branches, so that attaching something to
its end adds a branch. -/
def endsBranching (backward : Bool) : Shape → Bool
  | empty | literal _ | set _ _ | look _ | alt _ _ => false
  | seq s t => if backward then s.endsBranching backward else t.endsBranching backward
  | repeated s min none _ => min != 0 || s.leastLength.any (0 < ·)
  | repeated s min (some max) _ => min = max && s.endsBranching backward
  | capture s => backward && s.endsBranching backward

/-- The branches that are added when something is attached to the end of a shape. -/
def attachment (backward : Bool) (s : Shape) : Nat := (s.endsBranching backward).toNat

/-- Which branches of a choice a shape stands for. The two states of the choice itself are built
after its second branch. -/
inductive Role where
  /-- All of them. -/
  | whole
  /-- The second and those after it. -/
  | second
  /-- Branches after the second. -/
  | later
deriving DecidableEq, Repr

/-- Builds the states of a choice itself, after its second branch. -/
def Role.finish : Role → Tally → Tally
  | second, t => t.addStates 2
  | _, t => t

/-- Builds a shape. -/
def build (backward : Bool) (role : Role) : Shape → Tally → Tally
  | empty, t | look _, t => role.finish (t.addState 0)
  | literal cs, t => role.finish (t.addStates (utf8Bytes cs).length)
  | set _ ranges, t => role.finish (t.addClass backward ranges)
  | seq s u, t =>
    let both := if backward then s.build backward .whole (u.build backward .whole t)
      else u.build backward .whole (s.build backward .whole t)
    role.finish (both.addBranches ((if backward then u else s).attachment backward))
  | alt s u, t =>
    match role, ((alt s u).branches.mapM literal?) with
    | .whole, some literals => t.addLiterals backward literals
    | .whole, none =>
      let links := (alt s u).branches.map fun b => 1 + b.attachment backward
      (u.build backward .second (s.build backward .whole t)).addBranches links.sum
    | .second, _ => u.build backward .later ((s.build backward .whole t).addStates 2)
    | .later, _ => u.build backward .later (s.build backward .whole t)
  | capture s, t =>
    if backward then role.finish (s.build backward .whole t)
    else
      let inner := s.build backward .whole (t.addState 0)
      role.finish ((inner.addState 0).addBranches (s.attachment backward))
  | repeated s min max _, t =>
    let once := s.build backward .whole
    let link := s.attachment backward
    let attached (t : Tally) : Tally := (once t).addBranches link
    let exactly (count : Nat) (t : Tally) : Tally :=
      if count = 0 then t.addState 0 else once (t.times attached (count - 1))
    role.finish <| match min, max with
      | 0, some 1 => ((once (t.addState 0)).addState 0).addBranches (2 + link)
      | 0, none =>
        if s.leastLength.any (0 < ·) then (once (t.addState 0)).addBranches (1 + link)
        else ((once t).addStates 3).addBranches (4 + link)
      | min, none => ((exactly min t).addState 0).addBranches (1 + link)
      | min, some max =>
        if min = max then exactly min t
        else
          let optional (t : Tally) : Tally := (once (t.addState 0)).addBranches (2 + link)
          let first := if min = 0 then 0 else link
          (((exactly min t).addState 0).addBranches first).times optional (max - min)

/-- The size of the automaton of a shape. Unless all matches begin where the automaton starts to
read, it starts with a loop over all bytes. Captures are only kept forwards, where the whole match
is one more of them. -/
def automatonSize (s : Shape) (backward : Bool) : Nat :=
  let anchored := if backward then s.endsWith .textEnd else s.beginsWith .textStart
  let start : Tally := ⟨0, 0⟩
  let start := if anchored then start.addState 0
    else ((start.addStates 2).addState 1).addBranches 2
  let body := if backward then s.build backward .whole start
    else (s.build backward .whole (start.addState 0)).addState 0
  ((body.addBranches (s.attachment backward)).addState 0).bytes

end Shape

end Tabular
