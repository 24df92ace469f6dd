import Tabular.Text.CaseFold
import Tabular.Text.CodeSet

set_option autoImplicit false

/-! # Character classes

A character class is a set of characters given by ranges, tables and operations on sets. Whether a
character belongs to it is decided by `CharClass.contains`, one clause per operation. Ignoring case
closes a class under case variants, of all characters or of the ASCII letters alone.
-/

namespace Tabular

/-- A **character class**. -/
inductive CharClass where
  /-- The characters between two code points, both included. -/
  | range (low high : Nat)
  /-- The characters of a table. -/
  | table (s : CodeSet)
  | union (a b : CharClass)
  | inter (a b : CharClass)
  | diff (a b : CharClass)
  /-- The characters in exactly one of two classes. -/
  | symmDiff (a b : CharClass)
  | compl (a : CharClass)
  /-- The characters that are equal to a character up to case. -/
  | sameCase (c : Char)
  /-- The characters that are equal up to case to one in the class. -/
  | anyCase (a : CharClass)
  /-- The same for the letters of ASCII alone. -/
  | anyAsciiCase (a : CharClass)
deriving DecidableEq, Repr

namespace CharClass

/-- Whether a character is in a class. -/
def contains : CharClass → Char → Bool
  | range low high, c => low ≤ c.toNat && c.toNat ≤ high
  | table s, c => s.contains c
  | union a b, c => a.contains c || b.contains c
  | inter a b, c => a.contains c && b.contains c
  | diff a b, c => a.contains c && !b.contains c
  | symmDiff a b, c => a.contains c != b.contains c
  | compl a, c => !a.contains c
  | sameCase d, c => foldCase c == foldCase d
  | anyCase a, c => a.contains c || (caseVariants c).any a.contains
  | anyAsciiCase a, c => [c, c.toLower, c.toUpper].any a.contains

/-- The class of one character. -/
def single (c : Char) : CharClass := range c.toNat c.toNat

theorem contains_single (c d : Char) : (single c).contains d = (d == c) := by
  rw [Bool.eq_iff_iff]
  simp only [single, contains, Bool.and_eq_true, decide_eq_true_eq, beq_iff_eq]
  constructor
  · rintro ⟨h₁, h₂⟩
    exact Char.toNat_inj.mp (Nat.le_antisymm h₂ h₁)
  · rintro rfl
    exact ⟨Nat.le_refl _, Nat.le_refl _⟩

/-- The class without characters. -/
def nothing : CharClass := table ⟨[]⟩

/-- The union of some ranges of ASCII characters. -/
def ofRanges (ranges : List (Char × Char)) : CharClass :=
  table ⟨ranges.map fun r => (r.1.toNat, r.2.toNat)⟩

end CharClass

end Tabular
