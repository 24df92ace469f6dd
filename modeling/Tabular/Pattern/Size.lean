import Tabular.Pattern.Automaton
import Tabular.Pattern.Beginning
import Tabular.Pattern.Reader

set_option autoImplicit false

/-! # The size of a pattern

A pattern is refused when it is too large: the automaton that reads forwards and the one that reads
backwards must each fit in `sizeLimit` bytes. What matches only a few words, and a long choice
between literals, is searched without an automaton and is never too large. A bound that is found
without building anything settles the question for most patterns.
-/

namespace Tabular

/-! ## A bound -/

/-- A bound on the bytes that the automaton of a class takes. A range is written by at most seven
byte sequences, and seven more wherever it reaches from characters of one length to longer ones or
past the surrogates; a sequence takes at most four states with one edge each. -/
def CharClass.sizeBound (s : CharClass) : Nat := 64 + 4 * 40 * (7 * (s.rangeBound + 4))

namespace Pattern

/-- A bound on the bytes that the automaton of a pattern takes, in either direction. A byte of a
literal takes at most 80 bytes, and a choice at most 128 bytes for itself and for each branch. -/
def sizeBound : Pattern → Nat
  | empty | look _ => 32
  | char _ (.range low high) =>
    if low = high then 4 * 80 else (CharClass.range low high).sizeBound
  | char _ s => s.sizeBound
  | seq p q => p.sizeBound + q.sizeBound + 4
  | alt p q => p.sizeBound + q.sizeBound + 2 * 128
  | group _ p => p.sizeBound + 2 * 32 + 4
  | repeated p min max _ => Nat.max (max.getD min) 1 * (p.sizeBound + 48) + 4 * 32

/-! ## Patterns that fit -/

/-- How many literals make a choice between them so long that it is searched without an
automaton. -/
def manyLiterals : Nat := 3000

/-- Whether a shape is a long choice between literals. -/
def isManyLiterals (s : Shape) : Bool :=
  manyLiterals ≤ s.branches.length && s.branches.all (·.literal?.isSome)

/-- Whether a shape is not too large. -/
def shapeFits (s : Shape) : Bool :=
  s.isWordList || isManyLiterals s ||
    (s.automatonSize false ≤ sizeLimit && s.automatonSize true ≤ sizeLimit)

/-- Whether a pattern is not too large. -/
def fits (p : Pattern) : Bool := p.sizeBound + 512 ≤ sizeLimit || shapeFits p.shape

/-- A pattern whose bound is small enough fits. -/
theorem fits_of_sizeBound_le {p : Pattern} (h : p.sizeBound + 512 ≤ sizeLimit) : p.fits = true := by
  simp [fits, h]

end Pattern

end Tabular
