import Tabular.Proofs.Decimal.Numeral
import Tabular.Text.Word

set_option autoImplicit false

/-! # Where tokens end

Both tokenizers take as much as they can. What they take off the front of a text is therefore the
same in front of another text only if that text goes on with no token (`Divides`): blanks,
parentheses, braces and commas do not, nor does the end.
-/

namespace Tabular

/-- A text **divides** what it comes after from itself: its first character goes on with no word, no
numeral, no quoted text and no operator. -/
def Divides (rest : List Char) : Prop :=
  ∀ c ∈ rest.head?, isWordPart c = false ∧ c ∉ ['.', '\'', '+', '-', '=', '>', '*']

theorem divides_nil : Divides [] := fun _ hc => nomatch hc

section

variable {c : Char} {rest : List Char}

theorem divides_cons (hpart : isWordPart c = false)
    (hsymbol : c ∉ ['.', '\'', '+', '-', '=', '>', '*']) : Divides (c :: rest) := by
  intro d hd
  obtain rfl := Option.some.inj hd
  exact ⟨hpart, hsymbol⟩

/-- A blank divides. -/
theorem divides_of_isBlank (hc : isBlank c = true) : Divides (c :: rest) := by
  refine divides_cons ?_ ?_
  · refine Bool.eq_false_iff.mpr fun hpart => ?_
    rw [(wordPart_plain hpart).1] at hc
    cases hc
  · intro hsymbol
    simp only [List.mem_cons, List.not_mem_nil, or_false] at hsymbol
    rcases hsymbol with rfl | rfl | rfl | rfl | rfl | rfl | rfl <;> cases hc

end

namespace Divides

variable {rest : List Char} (hrest : Divides rest)
include hrest

theorem endsWord : ∀ c ∈ rest.head?, isWordPart c = false := fun c hc => (hrest c hc).1

/-- What divides ends a numeral: digits and exponent marks are parts of words. -/
theorem endsNumeral : EndsNumeral rest := by
  intro c hc
  obtain ⟨hpart, hsymbol⟩ := hrest c hc
  have hdigit : c.isDigit = false := by
    rw [isWordPart, Char.isAlphanum, Bool.or_eq_false_iff, Bool.or_eq_false_iff] at hpart
    exact hpart.1.2
  refine ⟨hdigit, fun hmem => ?_⟩
  simp only [List.mem_cons, List.not_mem_nil, or_false] at hmem
  rcases hmem with rfl | rfl | rfl | rfl | rfl
  · exact hsymbol (by decide)
  · cases hpart
  · cases hpart
  · exact hsymbol (by decide)
  · exact hsymbol (by decide)

/-- What divides does not start as an operator goes on. -/
theorem head?_ne {d : Char} (hd : d ∈ ['\'', '=', '>', '*']) : rest.head? ≠ some d := by
  intro hhead
  have hsubset : ['\'', '=', '>', '*'] ⊆ ['.', '\'', '+', '-', '=', '>', '*'] := by decide
  exact (hrest d hhead).2 (hsubset hd)

end Divides

end Tabular
