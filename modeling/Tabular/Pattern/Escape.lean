import Tabular.Pattern.Basic
import Tabular.Pattern.Ranges
import Tabular.Text.Blank

set_option autoImplicit false

/-! # Flags and escapes of patterns

How a pattern reads depends on **flags**, which groups can change. In verbose mode blanks and
comments between the parts of a pattern are skipped, also inside escapes. This file reads the
flags of a group, decimal and hexadecimal numbers, and everything that starts with a backslash.
Readers take the characters that are left, give back what they read and the characters after it,
and answer `none` where the text is not a pattern.
-/

namespace Tabular

/-- A reader takes something off the front of a text. -/
abbrev Reads (α : Type) := List Char → Option (α × List Char)

/-! ## Flags -/

/-- The flags that a pattern is read under. -/
structure Flags where
  /-- Letters match in both cases. -/
  ignoreCase : Bool
  /-- The anchors hold at lines. -/
  multiLine : Bool := false
  /-- The dot matches line feeds too. -/
  dotAll : Bool := false
  /-- Blanks and comments are skipped. -/
  verbose : Bool := false
  /-- Classes and assertions know all scripts. -/
  unicode : Bool := true
  /-- Carriage returns end lines too. -/
  carriageReturns : Bool := false
  /-- A repetition prefers few times, and many where a question mark follows it. -/
  preferFew : Bool := false
deriving DecidableEq, Repr

namespace Flags

/-- The letters that stand for flags. -/
def letters : List Char := ['i', 'm', 's', 'U', 'u', 'R', 'x']

/-- Whether the text between a group's question mark and its colon or parenthesis is well formed:
flags, at most one minus sign, nothing twice and no minus sign at the end. -/
def wellFormed (text : List Char) : Bool :=
  text.all (fun c => letters.contains c || c == '-') && decide text.Nodup
    && text.getLast? != some '-'

/-- The state of a flag after a well-formed flag text: on if its letter stands before the minus
sign, off if after it, and unchanged otherwise. -/
def switch (text : List Char) (letter : Char) (state : Bool) : Bool :=
  if (text.takeWhile (· != '-')).contains letter then true
  else if text.contains letter then false else state

/-- The flags after a well-formed flag text. -/
def update (f : Flags) (text : List Char) : Flags where
  ignoreCase := switch text 'i' f.ignoreCase
  multiLine := switch text 'm' f.multiLine
  dotAll := switch text 's' f.dotAll
  verbose := switch text 'x' f.verbose
  unicode := switch text 'u' f.unicode
  carriageReturns := switch text 'R' f.carriageReturns
  preferFew := switch text 'U' f.preferFew

end Flags

/-! ## What verbose mode skips -/

/-- The text after its leading blanks and comments. A comment runs from a `#` to the end of the
line. -/
def skipBlanks (inComment : Bool) : List Char → List Char
  | [] => []
  | c :: rest =>
    if inComment then skipBlanks (c != '\n') rest
    else if isBlank c then skipBlanks false rest
    else if c = '#' then skipBlanks true rest
    else c :: rest

/-- What is left of a text to read: in verbose mode, after its leading blanks and comments. -/
def Flags.skip (f : Flags) (cs : List Char) : List Char :=
  if f.verbose then skipBlanks false cs else cs

/-! ## Numbers -/

/-- Takes a run of characters of a kind, skipping between them what verbose mode skips. -/
def takeRun (f : Flags) (p : Char → Bool) : Nat → List Char → List Char × List Char
  | 0, cs => ([], cs)
  | _ + 1, [] => ([], [])
  | fuel + 1, c :: rest =>
    if p c then
      let (run, rest) := takeRun f p fuel (f.skip rest)
      (c :: run, rest)
    else ([], c :: rest)

/-- Reads a decimal number below `2^32`, with blanks around it. -/
def readNumber (f : Flags) : Reads Nat := fun cs =>
  let cs := cs.dropWhile isBlank
  let (digits, rest) := takeRun f Char.isDigit cs.length cs
  let n := digits.foldl (fun n d => 10 * n + (d.toNat - '0'.toNat)) 0
  if digits.isEmpty || 1 <<< 32 ≤ n then none else some (n, rest.dropWhile isBlank)

/-- The value of a hexadecimal digit. -/
def hexValue? (c : Char) : Option Nat :=
  if c.isDigit then some (c.toNat - '0'.toNat)
  else if 'a' ≤ c && c ≤ 'f' then some (c.toNat - 'a'.toNat + 10)
  else if 'A' ≤ c && c ≤ 'F' then some (c.toNat - 'A'.toNat + 10)
  else none

/-- The character whose code point a run of hexadecimal digits writes. -/
def hexCharacter? (digits : List Char) : Option Char :=
  let n := digits.foldl (fun n d => 16 * n + (hexValue? d).getD 0) 0
  if digits.isEmpty then none
  else if n.isValidChar then some (Char.ofNat n) else none

/-- Reads the rest of a hexadecimal escape: digits in braces, or exactly `count` digits. -/
def readHex (f : Flags) (count : Nat) : Reads Char := fun cs =>
  match f.skip cs with
  | '\x7b' :: rest =>
    let (digits, rest) := takeRun f (· != '\x7d') rest.length (f.skip rest)
    match rest with
    | '\x7d' :: rest =>
      if digits.all (hexValue? · |>.isSome) then
        (hexCharacter? digits).map fun c => (c, f.skip rest)
      else none
    | _ => none
  | cs =>
    let (digits, rest) := takeRun f (hexValue? · |>.isSome) count cs
    if digits.length = count then (hexCharacter? digits).map fun c => (c, f.skip rest) else none

/-! ## Classes with names -/

/-- A class after ignoring case, where the flags ask for it, and negation. Without the `u` flag a
negated class would contain parts of characters, and is refused. -/
def closeClass (f : Flags) (negated : Bool) (s : CharClass) : Option CharClass :=
  let s := if f.ignoreCase then (if f.unicode then .anyCase s else .anyAsciiCase s) else s
  if negated then (if f.unicode then some s.negation else none) else some s

/-- The digits, blanks and word characters that a lower-case letter names. -/
def shorthandClass? (unicode : Bool) (letter : Char) : Option CharClass :=
  if letter = 'd' then
    some (if unicode then .table Property.decimalNumber else .ofRanges [('0', '9')])
  else if letter = 's' then
    some (if unicode then .table Property.whiteSpace else .ofRanges [('\t', '\r'), (' ', ' ')])
  else if letter = 'w' then
    some (if unicode then .table Property.wordCharacter else .asciiWord)
  else none

/-- The class of a property, given by its name or by its name, a sign and a value. -/
def propertyClass? (f : Flags) (negated : Bool) (name : List Char) : Option CharClass := do
  guard f.unicode
  let (s, negated) ←
    match splitAtSign name with
    | some (property, unequal, value) =>
      (Property.ofValue? property value).map fun s => (s, negated != unequal)
    | none => (Property.ofName? name).map fun s => (s, negated)
  closeClass f negated (.table s)
where
  /-- Splits at the first `!=`, or else the first `:`, or else the first `=`. -/
  splitAtSign (name : List Char) : Option (List Char × Bool × List Char) :=
    match splitAtUnequal [] name with
    | some (property, value) => some (property, true, value)
    | none =>
      let sign := if name.contains ':' then ':' else '='
      if name.contains sign then
        some (name.takeWhile (· != sign), false, (name.dropWhile (· != sign)).drop 1)
      else none
  /-- Splits at the first `!=`. -/
  splitAtUnequal (before : List Char) : List Char → Option (List Char × List Char)
    | '!' :: '=' :: rest => some (before.reverse, rest)
    | c :: rest => splitAtUnequal (c :: before) rest
    | [] => none

/-- Reads the rest of a property escape: a name in braces, or a single letter. -/
def readProperty (f : Flags) (negated : Bool) : Reads CharClass := fun cs =>
  match f.skip cs with
  | '\x7b' :: rest =>
    let (name, rest) := takeRun f (· != '\x7d') rest.length (f.skip rest)
    match rest with
    | '\x7d' :: rest => (propertyClass? f negated name).map fun s => (s, rest)
    | _ => none
  | '\\' :: _ => none
  | c :: rest => (propertyClass? f negated [c]).map fun s => (s, f.skip rest)
  | [] => none

/-! ## Escapes -/

/-- What stands for itself in a pattern, or what an escape stands for. -/
inductive Atom where
  /-- A character; `byte` marks one that is written by its two hexadecimal digits. -/
  | char (c : Char) (byte : Bool)
  | set (s : CharClass)
  | look (l : Look)
deriving DecidableEq, Repr

/-- The characters with a meaning of their own somewhere in a pattern. -/
def isMeta (c : Char) : Bool :=
  ['\\', '.', '+', '*', '?', '(', ')', '|', '[', ']', '\x7b', '\x7d', '^', '$', '#', '&', '-', '~']
    |>.contains c

/-- The characters that a backslash turns into themselves: those of ASCII that are neither letters
nor digits, save the angle brackets. -/
def isEscapable (c : Char) : Bool :=
  isMeta c || (c.toNat < 128 && !c.isAlphanum && c != '<' && c != '>')

/-- The control character that a letter names after a backslash. -/
def controlCharacter? (letter : Char) : Option Char :=
  [('a', '\x07'), ('f', '\x0c'), ('t', '\t'), ('n', '\n'), ('r', '\r'), ('v', '\x0b')].lookup letter

/-- The word edge with a name. -/
def wordEdge? (name : String) : Option WordEdge :=
  [("start", .start), ("end", .finish), ("start-half", .startHalf),
    ("end-half", .finishHalf)].lookup name

/-- Reads the rest of `\b`: a named word edge in braces, or nothing when what follows cannot be
one. -/
def readWordEdge (f : Flags) : Reads WordEdge := fun cs =>
  match cs with
  | '\x7b' :: rest =>
    let isNamePart (c : Char) : Bool := c.isAlpha || c == '-'
    match f.skip rest with
    | [] => none
    | c :: rest =>
      if isNamePart c then
        match takeRun f isNamePart (rest.length + 1) (c :: rest) with
        | (name, '\x7d' :: rest) => (wordEdge? (String.ofList name)).map fun edge => (edge, rest)
        | _ => none
      else some (.boundary, cs)
  | _ => some (.boundary, cs)

/-- Reads what follows a backslash. -/
def readEscape (f : Flags) : Reads Atom := fun cs =>
  match cs with
  | [] => none
  | c :: rest =>
    let word (edge : WordEdge) : Atom := .look (.word edge f.unicode)
    if c = 'x' then
      (readHex f 2 rest).map fun (d, after) => (.char d ((f.skip rest).head? != some '\x7b'), after)
    else if c = 'u' then (readHex f 4 rest).map fun (d, after) => (.char d false, after)
    else if c = 'U' then (readHex f 8 rest).map fun (d, after) => (.char d false, after)
    else if c = 'p' ∨ c = 'P' then
      (readProperty f (c == 'P') rest).map fun (s, after) => (.set s, after)
    else if c = 'b' then (readWordEdge f rest).map fun (edge, after) => (word edge, after)
    else if c = 'B' then some (word .inside, rest)
    else if c = '<' then some (word .start, rest)
    else if c = '>' then some (word .finish, rest)
    else if c = 'A' then some (.look .textStart, rest)
    else if c = 'z' then some (.look .textEnd, rest)
    else if isEscapable c then some (.char c false, rest)
    else
      match controlCharacter? c, shorthandClass? f.unicode c.toLower with
      | some d, _ => some (.char d false, rest)
      | none, some s =>
        if c.isUpper then (if f.unicode then some (.set s.negation, rest) else none)
        else some (.set s, rest)
      | none, none => none

end Tabular
