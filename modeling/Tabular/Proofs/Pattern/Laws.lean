import Tabular.Pattern.Engine

set_option autoImplicit false

/-! # What is relied on of a pattern engine

Of all that patterns can be, filters write little themselves: characters, escaped where they would
mean something, the dot, such a character repeated with a star, and the two anchors, one after the
other. What this part of the language means is said here without an engine: a part takes a run of
the characters of a text, in view of those before and behind it (`PatternPart.Takes`).

An engine is **lawful** when it reads such patterns and finds them where they match
(`PatternEngine.IsLawful`). Nothing is asked of it for other patterns, and it may refuse as too large
whatever it wants to.
-/

namespace Tabular

/-! ## Parts of patterns -/

/-- What stands for one character in a pattern. -/
inductive CharPattern where
  /-- A character, escaped if it would mean something. -/
  | char (c : Char)
  /-- The dot. -/
  | any
deriving DecidableEq, Repr

namespace CharPattern

/-- How it is written. -/
def text : CharPattern → List Char
  | char c => if isMeta c then ['\\', c] else [c]
  | any => ['.']

/-- Whether it **stands for** a character: for itself, or up to simple case folding where case does
not count; and the dot for all characters but the line feed. -/
def admits (ignoreCase : Bool) : CharPattern → Char → Bool
  | char w, c => if ignoreCase then foldCase c == foldCase w else c == w
  | any, c => c != '\n'

end CharPattern

/-- A **part** of a pattern. -/
inductive PatternPart where
  | one (s : CharPattern)
  /-- Any number of characters. -/
  | star (s : CharPattern)
  | textStart
  | textEnd
deriving DecidableEq, Repr

namespace PatternPart

/-- How a part is written. -/
def text : PatternPart → List Char
  | one s => s.text
  | star s => s.text ++ ['*']
  | textStart => ['^']
  | textEnd => ['$']

/-- The text of some parts. -/
def textAll (parts : List PatternPart) : List Char := parts.flatMap text

/-- A part **takes** a run of characters, between those before it and those after it. -/
def Takes (ignoreCase : Bool) (before run after : List Char) : PatternPart → Prop
  | one s => ∃ c : Char, run = [c] ∧ s.admits ignoreCase c = true
  | star s => ∀ c ∈ run, s.admits ignoreCase c = true
  | textStart => run = [] ∧ before = []
  | textEnd => run = [] ∧ after = []

/-- Some parts **take** a run of characters one after the other. -/
def TakeAll (ignoreCase : Bool) : List PatternPart → List Char → List Char → List Char → Prop
  | [], _, run, _ => run = []
  | p :: ps, before, run, after => ∃ first rest : List Char, run = first ++ rest ∧
      p.Takes ignoreCase before first (rest ++ after) ∧
      TakeAll ignoreCase ps (before ++ first) rest after

end PatternPart

/-! ## Lawful engines -/

/-- An engine is **lawful** when the parts mean to it what they are documented to mean. -/
structure PatternEngine.IsLawful (E : PatternEngine) : Prop where
  /-- Parts one after the other are a pattern. -/
  isSome_read? : ∀ (ignoreCase : Bool) (parts : List PatternPart),
    (E.read? ignoreCase (PatternPart.textAll parts)).isSome = true
  /-- They match where they take a run of the text. -/
  occursIn_iff : ∀ {ignoreCase : Bool} {parts : List PatternPart} {p : E.Compiled},
    E.read? ignoreCase (PatternPart.textAll parts) = some p → ∀ cs : List Char,
      E.occursIn p cs = true ↔ ∃ before run after : List Char, cs = before ++ (run ++ after) ∧
        PatternPart.TakeAll ignoreCase parts before run after

end Tabular
