import Tabular.Pattern.CharClass
import Tabular.Text.Property

set_option autoImplicit false

/-! # Patterns

A pattern is a regular expression with assertions about the characters next to a place. A pattern
relates two places of a text: it **matches** from the first to the second when it can consume what
lies between them (`Pattern.Matches`). Only whether some match exists is ever asked, so which of
several matches is preferred makes no difference, and a group matches what its body matches.
-/

namespace Tabular

/-! ## Assertions -/

/-- How the words around a place are asked about. -/
inductive WordEdge where
  /-- A word character on exactly one side. -/
  | boundary
  /-- Word characters on both sides or on neither. -/
  | inside
  /-- A word starts here. -/
  | start
  /-- A word ends here. -/
  | finish
  /-- No word character before. -/
  | startHalf
  /-- No word character after. -/
  | finishHalf
deriving DecidableEq, Repr

/-- An **assertion** about a place in a text. -/
inductive Look where
  /-- The start of the text. -/
  | textStart
  /-- The end of the text. -/
  | textEnd
  /-- The start of a line. -/
  | lineStart
  /-- The end of a line. -/
  | lineEnd
  /-- The start of a line, where a carriage return may end lines too. -/
  | anyLineStart
  /-- The end of a line, where a carriage return may end lines too. -/
  | anyLineEnd
  /-- A relation to the words around the place; with `unicode`, words are made of word characters
  of all scripts, and of ASCII characters otherwise. -/
  | word (edge : WordEdge) (unicode : Bool)
deriving DecidableEq, Repr

/-- The word characters of ASCII. -/
def CharClass.asciiWord : CharClass :=
  .ofRanges [('0', '9'), ('A', 'Z'), ('_', '_'), ('a', 'z')]

/-- Whether a character is a word character, of all scripts or of ASCII. -/
def isWordCharacter (unicode : Bool) (c : Char) : Bool :=
  if unicode then Property.wordCharacter.contains c else CharClass.asciiWord.contains c

/-- Whether the words around a place stand as asked; `before` and `after` say whether there is a
word character on that side. -/
def WordEdge.holds (before after : Bool) : WordEdge → Bool
  | boundary => before != after
  | inside => before == after
  | start => !before && after
  | finish => before && !after
  | startHalf => !before
  | finishHalf => !after

/-- Whether an assertion holds at a place with the given neighbours. -/
def Look.holds (before after : Option Char) : Look → Bool
  | textStart => before.isNone
  | textEnd => after.isNone
  | lineStart => before.all (· == '\n')
  | lineEnd => after.all (· == '\n')
  | anyLineStart => before.all (· == '\n') || (before == some '\r' && after != some '\n')
  | anyLineEnd => after.all (· == '\r') || (after == some '\n' && before != some '\r')
  | word edge unicode =>
    edge.holds (before.any (isWordCharacter unicode)) (after.any (isWordCharacter unicode))

/-! ## Patterns -/

/-- A **pattern**. -/
inductive Pattern where
  /-- Consumes nothing. -/
  | empty
  /-- Consumes one character of a class; with `unicode` off, the class is one of ASCII or a single
  character. -/
  | char (unicode : Bool) (s : CharClass)
  /-- Consumes nothing where an assertion holds. -/
  | look (l : Look)
  | seq (p q : Pattern)
  | alt (p q : Pattern)
  /-- Between `min` and `max` times a pattern; without `max`, at least `min` times. With `few`,
  few times are preferred to many. -/
  | repeated (p : Pattern) (min : Nat) (max : Option Nat) (few : Bool)
  /-- A group, captured or not. -/
  | group (captured : Bool) (p : Pattern)
deriving DecidableEq, Repr

namespace Pattern

/-- Some patterns one after the other. -/
def seqAll : List Pattern → Pattern
  | [] => empty
  | [p] => p
  | p :: ps => seq p (seqAll ps)

/-- One of some patterns, or the empty one if there is none. -/
def altAll : List Pattern → Pattern
  | [] => empty
  | [p] => p
  | p :: ps => alt p (altAll ps)

/-- The character before a place of a text. -/
def before (cs : List Char) (i : Nat) : Option Char := if i = 0 then none else cs[i - 1]?

/-- **Matching.** `Matches cs p i j` holds when the pattern `p` can consume the characters of `cs`
from place `i` to place `j`. -/
inductive Matches (cs : List Char) : Pattern → Nat → Nat → Prop where
  | empty {i : Nat} : i ≤ cs.length → Matches cs .empty i i
  | char {unicode : Bool} {s : CharClass} {i : Nat} {c : Char} :
      cs[i]? = some c → s.contains c → Matches cs (.char unicode s) i (i + 1)
  | look {l : Look} {i : Nat} :
      i ≤ cs.length → l.holds (before cs i) cs[i]? → Matches cs (.look l) i i
  | seq {p q : Pattern} {i j k : Nat} :
      Matches cs p i j → Matches cs q j k → Matches cs (.seq p q) i k
  | altLeft {p q : Pattern} {i j : Nat} : Matches cs p i j → Matches cs (.alt p q) i j
  | altRight {p q : Pattern} {i j : Nat} : Matches cs q i j → Matches cs (.alt p q) i j
  | done {p : Pattern} {max : Option Nat} {few : Bool} {i : Nat} :
      i ≤ cs.length → Matches cs (.repeated p 0 max few) i i
  | again {p : Pattern} {min : Nat} {max : Option Nat} {few : Bool} {i j k : Nat} :
      Matches cs p i j → max ≠ some 0 →
        Matches cs (.repeated p (min - 1) (max.map (· - 1)) few) j k →
          Matches cs (.repeated p min max few) i k
  | group {captured : Bool} {p : Pattern} {i j : Nat} :
      Matches cs p i j → Matches cs (.group captured p) i j

end Pattern

end Tabular
