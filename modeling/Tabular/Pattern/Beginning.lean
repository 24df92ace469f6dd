import Tabular.Pattern.Shape

set_option autoImplicit false

/-! # How matches begin

Some shapes match a few words and nothing else (`Shape.isWordList`). A text is searched for the
words themselves, so that no automaton is built, however large one would be: a part that can never
match adds no words, but it adds states.

The words are found by listing the **beginnings** of matches: the bytes that a match begins with,
and whether these are the whole match. The list is kept short. A beginning that grows too long is
cut off, a repetition is followed for a few rounds only, and where a list would still be too long
there is none.
-/

namespace Tabular

/-! ## Lists of beginnings -/

/-- How a match can **begin**: with some bytes, which may be the `whole` match. -/
structure Beginning where
  bytes : List Nat
  whole : Bool
deriving DecidableEq, Repr

namespace Beginning

/-- The match that consumes nothing. -/
def nothing : Beginning := ⟨[], true⟩

/-- Says no longer that the bytes are the whole match. -/
def leaveOpen (b : Beginning) : Beginning := { b with whole := false }

/-- The first bytes of a beginning. -/
def cut (count : Nat) (b : Beginning) : Beginning :=
  if b.bytes.length ≤ count then b else ⟨b.bytes.take count, false⟩

/-- What follows a whole match, with that match before it. -/
def append (a b : Beginning) : Beginning := ⟨a.bytes ++ b.bytes, b.whole⟩

/-- Joins neighbours with the same bytes. They are a whole match if each of them is. -/
def mergeRepeats (bs : List Beginning) : List Beginning :=
  bs.foldr (fun a merged =>
    match merged with
    | b :: rest => if a.bytes = b.bytes then ⟨a.bytes, a.whole && b.whole⟩ :: rest else a :: merged
    | [] => [a]) []

/-- Leaves out each beginning that starts with the bytes of one before it. -/
def dropExtensions (bs : List Beginning) : List Beginning :=
  bs.foldl (fun kept b =>
    if kept.any fun a => a.bytes.isPrefixOf b.bytes then kept else kept ++ [b]) []

/-- The bytes that all beginnings start with. -/
def commonBytes : List Beginning → List Nat
  | [] => []
  | [b] => b.bytes
  | b :: rest =>
    ((b.bytes.zip (commonBytes rest)).takeWhile fun pair => pair.1 == pair.2).map Prod.fst

end Beginning

/-- The **beginnings** of the matches of a shape, in the order of preference, or none where they
are not listed. -/
abbrev Beginnings := Option (List Beginning)

namespace Beginnings

/-- The greatest number of beginnings in a list. -/
def most : Nat := 250

/-- The greatest number of bytes of a beginning. -/
def longest : Nat := 100

/-- The greatest number of characters of a class that are listed one by one. -/
def largestClass : Nat := 10

/-- The greatest number of rounds for which a repetition is followed. -/
def mostRounds : Nat := 10

/-- Says no longer that any beginning is a whole match. -/
def leaveOpen (bs : Beginnings) : Beginnings := bs.map (·.map Beginning.leaveOpen)

/-- Whether no beginning is a whole match, so that what follows makes no difference. -/
def isOpen (bs : Beginnings) : Bool := bs.all (·.all (!·.whole))

/-- The beginnings of a literal. -/
def ofLiteral (cs : List Char) : Beginnings :=
  some [(⟨utf8Bytes cs, true⟩ : Beginning).cut longest]

/-- The beginnings of a class. -/
def ofRanges (ranges : List (Nat × Nat)) : Beginnings :=
  if ranges.foldl (fun size r => size + (r.2 + 1 - r.1)) 0 ≤ largestClass then
    some (ranges.flatMap fun r =>
      (List.range' r.1 (r.2 + 1 - r.1)).map fun n => ⟨utf8Bytes [Char.ofNat n], true⟩)
  else none

/-- The beginnings of a choice between two shapes. Where there are too many, their first four bytes
may still be few enough. -/
def either (as bs : Beginnings) : Beginnings := do
  let as ← as
  let bs ← bs
  if as.length + bs.length ≤ most then some (Beginning.mergeRepeats (as ++ bs))
  else
    let as := Beginning.mergeRepeats (as.map (·.cut 4))
    let bs := Beginning.mergeRepeats (bs.map (·.cut 4))
    if as.length + bs.length ≤ most then some (Beginning.mergeRepeats (as ++ bs)) else none

/-- The beginnings of one shape after another. Where the second has none listed, or too many, those
of the first are all that is known, unless one of them has no bytes. -/
def andThen (as bs : Beginnings) : Beginnings :=
  if as.isOpen then as
  else do
    let as ← as
    match bs.filter fun bs => as.length * bs.length ≤ most with
    | none =>
      if as.any (·.bytes.isEmpty) then none
      else some (as.map fun a => a.leaveOpen.cut longest)
    | some bs =>
      let both := as.flatMap fun a => if a.whole then bs.map a.append else [a]
      some ((Beginning.mergeRepeats both).map (·.cut longest))

/-- The beginnings of a sequence, given those of its parts. -/
def inOrder (parts : List Beginnings) : Beginnings := parts.foldl andThen (some [.nothing])

/-- The beginnings of a choice, given those of its branches. -/
def anyOf (branches : List Beginnings) : Beginnings := branches.foldl either (some [])

/-- The beginnings of a repetition, given those of its body. -/
def times (min : Nat) (max : Option Nat) (few : Bool) (bs : Beginnings) : Beginnings :=
  if min = 0 then
    let once := if max = some 1 then bs else bs.leaveOpen
    if few then either (some [.nothing]) once else once.either (some [.nothing])
  else
    let rounds := inOrder (List.replicate (Nat.min min mostRounds) bs)
    if max = some min ∧ min ≤ mostRounds then rounds else rounds.leaveOpen

end Beginnings

/-! ## Lists of words -/

/-- Whether a byte is common in texts. A byte of a character that is not of ASCII counts as
common. -/
def isCommonByte (byte : Nat) : Bool :=
  0x80 ≤ byte || "\n\r (),-./0129:_abcdefghilmnoprstuvxy|".toList.any (·.toNat = byte)

namespace Beginning

/-- Cuts beginnings shorter as long as there are too many of them, given the lengths to cut them to
and how many are too many each time. -/
def shorten : List (Nat × Nat) → List Beginning → List Beginning
  | [], bs => bs
  | (length, few) :: rest, bs =>
    if bs.length ≤ few then bs else shorten rest (dropExtensions (bs.map (·.cut length)))

/-- Whether some beginnings are whole matches and it is best to search for them as they are. It is
better to search for what they have in common if that is long, or if it starts with a byte that is
not common. Of many beginnings it is better to search for the first few bytes, unless these are
still many or very short. -/
def areWords (bs : List Beginning) : Bool :=
  let kept := dropExtensions bs
  let common := commonBytes kept
  let isShortList := kept.all (·.whole) && kept.length ≤ 16
  if bs.isEmpty || bs.any (·.bytes.isEmpty) then false
  else if 2 ≤ bs.length && common.length ≤ 3 && common.head?.any (!isCommonByte ·) then
    kept.all fun b => (b.cut 1).whole
  else if 4 < common.length || (1 < common.length && !isShortList) then
    kept.all fun b => (b.cut common.length).whole
  else
    let short := shorten [(5, 10), (4, 10), (3, 64), (2, 64), (1, 10)] kept
    kept.all (·.whole) &&
      (short.all (·.whole) || short.any (·.bytes.length ≤ 2) || 64 < short.length)

end Beginning

namespace Shape

/-- What the beginnings of a shape are listed for. -/
inductive Piece where
  /-- The shape. -/
  | whole
  /-- Each part of it, if it is a sequence. -/
  | part
  /-- Each branch of it, if it is a choice. -/
  | branch
deriving DecidableEq, Repr

/-- The beginnings of the pieces of a shape. -/
def pieces (piece : Piece) : Shape → List Beginnings
  | empty | look _ => [some [.nothing]]
  | literal cs => [.ofLiteral cs]
  | set _ ranges => [.ofRanges ranges]
  | seq s t =>
    let parts := s.pieces .whole ++ t.pieces .part
    if piece = .part then parts else [.inOrder parts]
  | alt s t =>
    let branches := s.pieces .whole ++ t.pieces .branch
    if piece = .branch then branches else [.anyOf branches]
  | repeated s min max few => (s.pieces .whole).map (·.times min max few)
  | capture s => s.pieces .whole

/-- Whether an assertion occurs in a shape. -/
def looks : Shape → Bool
  | empty | literal _ | set _ _ => false
  | look _ => true
  | seq s t | alt s t => s.looks || t.looks
  | repeated s _ _ _ => s.looks
  | capture s => s.looks

/-- Whether a shape matches a few words and nothing else, and a text is searched for these. -/
def isWordList (s : Shape) : Bool :=
  !s.captures && !s.looks && (s.pieces .whole).all fun bs => bs.any Beginning.areWords

end Shape

end Tabular
