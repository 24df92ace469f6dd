import Tabular.Pattern.Bracket

set_option autoImplicit false

/-! # Reading patterns

A pattern is read in one pass with a stack of open groups. What has been read of the innermost
group is its finished branches and the items of the current branch. Every step takes at least one
character, so the length of the text bounds the number of steps. Flags that a group sets hold to
the end of the group that encloses it, in later branches too.

Groups, repetitions, sequences, alternations and bracketed classes may be nested `depthLimit`
deep in all.
-/

namespace Tabular

namespace Pattern

/-- A pattern together with how deep its nodes are nested. -/
structure Nested where
  pattern : Pattern
  depth : Nat
deriving DecidableEq, Repr

/-- An item of a sequence: a pattern, or a change of flags. -/
inductive Item where
  | pattern (p : Nested)
  | flags
deriving DecidableEq, Repr

/-- How deep the node of an item is nested. -/
def Item.depth : Item → Nat
  | pattern p => p.depth
  | flags => 0

/-- The pattern of an item. -/
def Item.toPattern : Item → Option Pattern
  | pattern p => some p.pattern
  | flags => none

/-- The greatest of some depths. -/
def greatest (depths : List Nat) : Nat := depths.foldl max 0

/-- The sequence of some items, which are given in reverse order. -/
def sequence (items : List Item) : Nested :=
  ⟨seqAll (items.reverse.filterMap Item.toPattern),
    greatest (items.map Item.depth) + if 2 ≤ items.length then 1 else 0⟩

/-- The alternation of a last branch and those before it, which are given in reverse order. -/
def alternation (branches : List Nested) (last : Nested) : Nested :=
  ⟨altAll ((last :: branches).reverse.map Nested.pattern),
    greatest ((last :: branches).map Nested.depth) + if branches.isEmpty then 0 else 1⟩

/-! ## Groups -/

/-- A group that is open: what had been read of the enclosing group, the flags there, and whether
the group captures. -/
structure OpenGroup where
  branches : List Nested
  items : List Item
  flags : Flags
  captures : Bool

/-- What a reader has read of a pattern. -/
structure Reading where
  branches : List Nested
  items : List Item
  flags : Flags
  names : List String
  enclosing : List OpenGroup

namespace Reading

/-- Adds a pattern to the current branch. -/
def push (r : Reading) (p : Nested) : Reading := { r with items := .pattern p :: r.items }

/-- Starts the next branch of the innermost group. -/
def nextBranch (r : Reading) : Reading :=
  { r with branches := sequence r.items :: r.branches, items := [] }

/-- Opens a group whose body has the given flags. -/
def openGroup (r : Reading) (captures : Bool) (flags : Flags) : Reading where
  branches := []
  items := []
  flags := flags
  names := r.names
  enclosing := ⟨r.branches, r.items, r.flags, captures⟩ :: r.enclosing

/-- The innermost group, as far as it has been read. -/
def body (r : Reading) : Nested := alternation r.branches (sequence r.items)

/-- Closes the innermost group. -/
def closeGroup (r : Reading) : Option Reading :=
  match r.enclosing with
  | [] => none
  | g :: rest =>
    let p := group g.captures r.body.pattern
    some ⟨g.branches, .pattern ⟨p, r.body.depth + 1⟩ :: g.items, g.flags, r.names, rest⟩

/-- Repeats the last item of the current branch, which must be a pattern; `swapped` says whether a
question mark follows. -/
def repeatLast (r : Reading) (min : Nat) (max : Option Nat) (swapped : Bool) : Option Reading :=
  match r.items with
  | .pattern p :: items =>
    let few := swapped != r.flags.preferFew
    some { r with items := .pattern ⟨.repeated p.pattern min max few, p.depth + 1⟩ :: items }
  | _ => none

end Reading

/-- Whether a character can stand in the name of a group. -/
def isNamePart (first : Bool) (c : Char) : Bool :=
  if first then c == '_' || Property.alphabetic.contains c
  else c == '_' || c == '.' || c == '[' || c == ']' || Property.alphanumeric.contains c

/-- Reads the name of a group, to its closing angle bracket. -/
def readName : Reads String := fun cs =>
  match cs.takeWhile (· != '>'), cs.dropWhile (· != '>') with
  | c :: tail, '>' :: rest =>
    if isNamePart true c && tail.all (isNamePart false) then
      some (String.ofList (c :: tail), rest)
    else none
  | _, _ => none

/-- Reads what follows an opening parenthesis. -/
def readGroup (r : Reading) : Reads Reading := fun cs =>
  let named (cs : List Char) : Option (Reading × List Char) := do
    let (name, rest) ← readName cs
    if r.names.contains name then none
    else some ({ r with names := name :: r.names }.openGroup true r.flags, rest)
  match r.flags.skip cs with
  | '?' :: '=' :: _ | '?' :: '!' :: _ => none
  | '?' :: '<' :: '=' :: _ | '?' :: '<' :: '!' :: _ => none
  | '?' :: 'P' :: '<' :: rest => named rest
  | '?' :: '<' :: rest => named rest
  | '?' :: rest =>
    let text := rest.takeWhile fun c => c != ':' && c != ')'
    if Flags.wellFormed text then
      match rest.drop text.length with
      | ':' :: rest => some (r.openGroup false (r.flags.update text), rest)
      | ')' :: rest =>
        if text.isEmpty then none
        else some ({ r with items := .flags :: r.items, flags := r.flags.update text }, rest)
      | _ => none
    else none
  | rest => some (r.openGroup true r.flags, rest)

/-! ## Repetitions -/

/-- Reads a counted repetition after its opening brace: its least and its greatest count. -/
def readCounts (f : Flags) : Reads (Nat × Option Nat) := fun cs => do
  let (min, rest) ← readNumber f (f.skip cs)
  let (max, rest) ← (match rest with
    | ',' :: rest =>
      match f.skip rest with
      | '\x7d' :: rest => some (none, '\x7d' :: rest)
      | rest => (readNumber f rest).map fun (max, rest) => (some max, rest)
    | rest => some (some min, rest) : Option (Option Nat × List Char))
  match rest with
  | '\x7d' :: rest => if max.all (min ≤ ·) then some ((min, max), f.skip rest) else none
  | _ => none

/-- Takes the question mark that may follow a repetition. -/
def takeQuestion : List Char → Bool × List Char
  | '?' :: rest => (true, rest)
  | cs => (false, cs)

/-! ## Atoms -/

/-- The pattern of a character under the flags. Without the `u` flag, a character that is written
as a byte must be of ASCII. -/
def ofChar (f : Flags) (c : Char) (byte : Bool) : Option Pattern :=
  if !f.unicode && byte && 128 ≤ c.toNat then none
  else if f.ignoreCase then
    some (.char f.unicode (if f.unicode then .sameCase c else .anyAsciiCase (.single c)))
  else some (.char f.unicode (.single c))

/-- The pattern of the dot under the flags. Without the `u` flag it would match parts of
characters, and is refused. -/
def ofDot (f : Flags) : Option Pattern :=
  if !f.unicode then none
  else if f.dotAll then some (.char true (.table Property.any))
  else if f.carriageReturns then
    some (.char true (.compl (.union (.single '\r') (.single '\n'))))
  else some (.char true (.compl (.single '\n')))

/-- The assertions of the two anchors under the flags. -/
def ofAnchor (f : Flags) (atStart : Bool) : Look :=
  if f.multiLine then
    if f.carriageReturns then (if atStart then .anyLineStart else .anyLineEnd)
    else (if atStart then .lineStart else .lineEnd)
  else (if atStart then .textStart else .textEnd)

/-- The pattern of a character or an escape. -/
def ofAtom (f : Flags) : Atom → Option Pattern
  | .char c byte => ofChar f c byte
  | .set s => some (.char f.unicode s)
  | .look l => some (.look l)

/-! ## The reader -/

/-- Reads one part of a pattern that starts with the character `c`. -/
def readPart (r : Reading) (c : Char) : Reads Reading := fun rest =>
  let leaf (p : Option Pattern) (rest : List Char) : Option (Reading × List Char) :=
    p.map fun p => (r.push ⟨p, 0⟩, rest)
  let repetition (min : Nat) (max : Option Nat) (rest : List Char) : Option (Reading × List Char) :=
    let (swapped, rest) := takeQuestion rest
    (r.repeatLast min max swapped).map fun r => (r, rest)
  if c = '(' then readGroup r rest
  else if c = ')' then r.closeGroup.map fun r => (r, rest)
  else if c = '|' then some (r.nextBranch, rest)
  else if c = '[' then
    (readBracket r.flags rest).map fun (s, rest) =>
      (r.push ⟨.char r.flags.unicode s.members, s.depth⟩, rest)
  else if c = '?' then repetition 0 (some 1) rest
  else if c = '*' then repetition 0 none rest
  else if c = '+' then repetition 1 none rest
  else if c = '\x7b' then do
    let ((min, max), rest) ← readCounts r.flags rest
    repetition min max rest
  else if c = '\\' then do
    let (atom, rest) ← readEscape r.flags rest
    leaf (ofAtom r.flags atom) rest
  else if c = '.' then leaf (ofDot r.flags) rest
  else if c = '^' then leaf (some (.look (ofAnchor r.flags true))) rest
  else if c = '$' then leaf (some (.look (ofAnchor r.flags false))) rest
  else leaf (ofChar r.flags c false) rest

/-- Reads parts until the text ends, in at most the given number of steps. -/
def readParts : Nat → Reading → List Char → Option Reading
  | fuel, r, cs =>
    match r.flags.skip cs with
    | [] => some r
    | c :: rest =>
      match fuel with
      | 0 => none
      | fuel + 1 => do
        let (r, rest) ← readPart r c rest
        readParts fuel r rest

/-- How deep the nodes of a pattern may be nested. -/
def depthLimit : Nat := 250

/-- The pattern that a text writes, under the given flags, if it is one. -/
def read? (f : Flags) (cs : List Char) : Option Pattern := do
  let r ← readParts cs.length ⟨[], [], f, [], []⟩ cs
  guard (r.enclosing.isEmpty && r.body.depth ≤ depthLimit)
  pure r.body.pattern

end Pattern

end Tabular
