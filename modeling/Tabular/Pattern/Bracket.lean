import Tabular.Pattern.Escape

set_option autoImplicit false

/-! # Bracketed classes

Between square brackets stand characters, ranges, escapes, named classes of ASCII and further
bracketed classes. They form a union, and the operators `&&`, `--` and `~~` combine the unions on
their two sides, from left to right. The reader keeps a stack of the brackets that are open and of
the left operands that wait for their right one. It also counts how deep the nodes of the class
are nested, since patterns have a limit on that.
-/

namespace Tabular

/-- The operators between unions. -/
inductive ClassOperator where
  | inter
  | diff
  | symmDiff
deriving DecidableEq, Repr

/-- A class together with how deep its nodes are nested. -/
structure NestedClass where
  members : CharClass
  depth : Nat
deriving DecidableEq, Repr

/-- The items of a union so far: their union, their number and their greatest depth. -/
structure ClassItems where
  members : CharClass
  count : Nat
  depth : Nat
deriving DecidableEq, Repr

namespace ClassItems

/-- No items. -/
def none : ClassItems := ⟨.nothing, 0, 0⟩

/-- One more item. -/
def add (items : ClassItems) (item : NestedClass) : ClassItems :=
  ⟨if items.count = 0 then item.members else .union items.members item.members, items.count + 1,
    max items.depth item.depth⟩

/-- The class of the items. Two or more of them are nested one deeper than they are. -/
def toClass (items : ClassItems) : NestedClass :=
  ⟨items.members, if 2 ≤ items.count then items.depth + 1 else items.depth⟩

end ClassItems

/-- What waits on the stack while a bracketed class is read. -/
inductive ClassFrame where
  /-- An open bracket: the items before it, and whether it is negated. -/
  | bracket (outer : ClassItems) (negated : Bool)
  /-- The left operand of an operator. -/
  | operand (left : NestedClass) (o : ClassOperator)
deriving Repr

/-! ## Named classes of ASCII -/

/-- The named classes of ASCII. -/
def asciiClasses : List (String × List (Char × Char)) := [
  ("alnum", [('0', '9'), ('A', 'Z'), ('a', 'z')]),
  ("alpha", [('A', 'Z'), ('a', 'z')]),
  ("ascii", [('\x00', '\x7f')]),
  ("blank", [('\t', '\t'), (' ', ' ')]),
  ("cntrl", [('\x00', '\x1f'), ('\x7f', '\x7f')]),
  ("digit", [('0', '9')]),
  ("graph", [('!', '~')]),
  ("lower", [('a', 'z')]),
  ("print", [(' ', '~')]),
  ("punct", [('!', '/'), (':', '@'), ('[', '\x60'), ('\x7b', '~')]),
  ("space", [('\t', '\r'), (' ', ' ')]),
  ("upper", [('A', 'Z')]),
  ("word", [('0', '9'), ('A', 'Z'), ('_', '_'), ('a', 'z')]),
  ("xdigit", [('0', '9'), ('A', 'F'), ('a', 'f')])]

/-- Reads a named class after its opening bracket: its ranges and whether it is negated. What does
not have the form of a named class is not one. -/
def readAsciiClass : Reads (List (Char × Char) × Bool)
  | ':' :: rest =>
    let negated := rest.head? == some '^'
    let rest := if negated then rest.drop 1 else rest
    let name := rest.takeWhile (· != ':')
    match rest.drop name.length with
    | ':' :: ']' :: after =>
      (asciiClasses.lookup (String.ofList name)).map fun ranges => ((ranges, negated), after)
    | _ => none
  | _ => none

/-! ## Items -/

/-- Reads a character or an escape of a bracketed class. -/
def readClassAtom (f : Flags) : Reads Atom
  | '\\' :: rest => readEscape f rest
  | c :: rest => some (.char c false, rest)
  | [] => none

/-- Whether a character can stand in a class: without the `u` flag only those of ASCII can. -/
def classAdmits (f : Flags) (c : Char) : Bool := f.unicode || c.toNat < 128

/-- The next character but one that is no blank, for telling ranges from other uses of a hyphen. -/
def peekAfter (f : Flags) (rest : List Char) : Option Char :=
  if f.verbose then
    match rest.dropWhile isBlank with
    | '#' :: rest => (rest.dropWhile isBlank).head?
    | rest => rest.head?
  else rest.head?

/-- Reads a range, or a single item of a bracketed class. -/
def readClassItem (f : Flags) : Reads CharClass := fun cs => do
  let (low, rest) ← readClassAtom f cs
  let single (rest : List Char) : Option (CharClass × List Char) :=
    match low with
    | .char c _ => if classAdmits f c then some (.single c, rest) else none
    | .set s => some (s, rest)
    | .look _ => none
  match f.skip rest with
  | [] => none
  | '-' :: after =>
    if peekAfter f after == some ']' || peekAfter f after == some '-' then single ('-' :: after)
    else
      let (high, rest) ← readClassAtom f (f.skip after)
      match low, high with
      | .char c _, .char d _ =>
        if classAdmits f c && classAdmits f d && c ≤ d then
          some (.range c.toNat d.toNat, rest)
        else none
      | _, _ => none
  | rest => single rest

/-! ## Brackets and operators -/

/-- Reads hyphens that stand for themselves at the start of a class. -/
def readHyphens (f : Flags) : Nat → ClassItems → List Char → ClassItems × List Char
  | fuel + 1, items, '-' :: rest =>
    readHyphens f fuel (items.add ⟨.single '-', 0⟩) (f.skip rest)
  | _, items, cs => (items, cs)

/-- Reads what follows an opening bracket: whether the class is negated, and the hyphens, or else
the closing bracket, that stand for themselves there. -/
def readOpening (f : Flags) (cs : List Char) : Bool × ClassItems × List Char :=
  let cs := f.skip cs
  let negated := cs.head? == some '^'
  let cs := if negated then f.skip (cs.drop 1) else cs
  let (items, rest) := readHyphens f cs.length .none cs
  match rest with
  | ']' :: after =>
    if items.count = 0 then (negated, items.add ⟨.single ']', 0⟩, f.skip after)
    else (negated, items, rest)
  | _ => (negated, items, rest)

/-- Combines two classes. When case is ignored, each is closed under case first. -/
def ClassOperator.combine (f : Flags) (o : ClassOperator) (left right : NestedClass) :
    NestedClass :=
  let close (s : CharClass) : CharClass := (closeClass f false s).getD s
  let a := close left.members
  let b := close right.members
  let members := match o with
    | .inter => CharClass.inter a b
    | .diff => CharClass.diff a b
    | .symmDiff => CharClass.symmDiff a b
  ⟨members, max left.depth right.depth + 1⟩

/-- Combines a complete union with the left operand that waits for it, if one does. -/
def popOperand (f : Flags) (right : NestedClass) : List ClassFrame → NestedClass × List ClassFrame
  | .operand left o :: stack => (o.combine f left right, stack)
  | stack => (right, stack)

/-- Reads the items of an open bracketed class to its closing bracket. -/
def readItems (f : Flags) : Nat → List ClassFrame → ClassItems → Reads NestedClass
  | 0, _, _, _ => none
  | fuel + 1, stack, items, cs =>
    let operator (o : ClassOperator) (rest : List Char) : Option (NestedClass × List Char) :=
      let (left, stack) := popOperand f items.toClass stack
      readItems f fuel (.operand left o :: stack) .none rest
    match f.skip cs with
    | [] => none
    | '[' :: rest =>
      match readAsciiClass rest with
      | some ((ranges, negated), rest) => do
        let s ← closeClass f negated (.ofRanges ranges)
        readItems f fuel stack (items.add ⟨s, 0⟩) rest
      | none =>
        let (negated, inner, rest) := readOpening f rest
        readItems f fuel (.bracket items negated :: stack) inner rest
    | ']' :: rest =>
      match popOperand f items.toClass stack with
      | (set, .bracket outer negated :: stack) => do
        let s ← closeClass f negated set.members
        let whole : NestedClass := ⟨s, set.depth + 1⟩
        if stack.isEmpty then some (whole, rest)
        else readItems f fuel stack (outer.add whole) rest
      | _ => none
    | '&' :: '&' :: rest => operator .inter rest
    | '-' :: '-' :: rest => operator .diff rest
    | '~' :: '~' :: rest => operator .symmDiff rest
    | cs => do
      let (s, rest) ← readClassItem f cs
      readItems f fuel stack (items.add ⟨s, 0⟩) rest

/-- Reads a bracketed class after its opening bracket. -/
def readBracket (f : Flags) : Reads NestedClass := fun cs =>
  let (negated, items, rest) := readOpening f cs
  readItems f (rest.length + 1) [.bracket .none negated] items rest

end Tabular
