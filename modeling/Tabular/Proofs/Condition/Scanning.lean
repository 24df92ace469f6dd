import Tabular.Condition.Token
import Tabular.Proofs.Text.Scanner

set_option autoImplicit false

/-! # Scanning conditions

The lexemes of a text are found from its end to its front, one lemma for each kind of token.
-/

namespace Tabular.Condition

/-- Conditions read numerals. -/
theorem Lexeme.readsNumerals : ReadsNumerals Lexeme.read .number := by
  intro c cs hc
  have hne : ∀ d : Char, d.isDigit = false ∧ d ≠ '.' → c ≠ d := fun d => ne_of_numeralStart hc
  have hstart : (c.isDigit || c == '.') = true := by simpa using hc
  unfold Lexeme.read
  cases scanNumeral (c :: cs) <;>
    rw [if_neg (hne _ (by decide)), if_neg (hne _ (by decide)), if_neg (hne _ (by decide)),
      if_neg (hne _ (by decide)), if_neg (hne _ (by decide)), if_neg (hne _ (by decide)),
      if_pos hstart]

/-- A text **lexes** to some lexemes when its tokens say them. -/
abbrev Lexes : List Char → List Lexeme → Prop :=
  ScansAs Lexeme.read (fun lexeme cs offset => ⟨lexeme, String.ofList cs, offset⟩) Token.lexeme

/-! ## Quoted texts -/

/-- Characters with each quote written twice. -/
def doubled : List Char → List Char
  | [] => []
  | '\'' :: cs => '\'' :: '\'' :: doubled cs
  | c :: cs => c :: doubled cs

/-- A text in quotes. -/
def quote (s : String) : String := "'" ++ String.ofList (doubled s.toList) ++ "'"

theorem toList_quote (s : String) :
    (quote s).toList = '\'' :: (doubled s.toList ++ ['\'']) := by
  simp only [quote, String.toList_append, String.toList_ofList]
  rfl

/-- Doubled quotes are read as quotes up to the closing one. -/
theorem readQuoted_doubled {rest : List Char} (hrest : rest.head? ≠ some '\'') (cs : List Char) :
    readQuoted (doubled cs ++ '\'' :: rest) = some (cs, (doubled cs).length + 1) := by
  fun_induction doubled cs with
  | case1 =>
      cases rest with
      | nil => rfl
      | cons c rest =>
          rw [List.nil_append, readQuoted]
          · rfl
          · rintro left heq
            obtain ⟨rfl, -⟩ := List.cons.inj heq
            exact hrest rfl
  | case2 cs ih =>
      simp only [List.cons_append, readQuoted, ih, Option.map_some, List.length_cons]
  | case3 c cs hquote ih =>
      rw [List.cons_append, readQuoted]
      · rw [ih]
        rfl
      · intro _ heq
        exact absurd heq hquote
      · exact hquote

/-! ## One token after the other -/

section

variable {rest : List Char} {ls : List Lexeme}

theorem Lexes.opening (h : Lexes rest ls) : Lexes ('(' :: rest) (.opening :: ls) :=
  h.cons [] rfl rfl

theorem Lexes.closing (h : Lexes rest ls) : Lexes (')' :: rest) (.closing :: ls) :=
  h.cons [] rfl rfl

theorem Lexes.openBrace (h : Lexes rest ls) : Lexes ('\x7b' :: rest) (.openBrace :: ls) :=
  h.cons [] rfl rfl

theorem Lexes.closeBrace (h : Lexes rest ls) : Lexes ('\x7d' :: rest) (.closeBrace :: ls) :=
  h.cons [] rfl rfl

/-- A keyword in front of a blank is a word. -/
theorem Lexes.keyword (k : Keyword) (h : Lexes (' ' :: rest) ls) :
    Lexes (k.word.toList ++ ' ' :: rest) (.word k.word :: ls) := by
  cases k <;> exact h.cons _ rfl rfl

theorem Lexeme.read_quote {s : List Char} {count : Nat} (h : readQuoted rest = some (s, count)) :
    Lexeme.read '\'' rest = .ok (.quoted (String.ofList s), count) := by
  simp [Lexeme.read, h]

/-- A text in quotes is quoted, unless one more quote follows. -/
theorem Lexes.quoted (s : String) (hrest : rest.head? ≠ some '\'') (h : Lexes rest ls) :
    Lexes ((quote s).toList ++ rest) (.quoted s :: ls) := by
  -- the opening quote stands for the lexeme; the rest, with the closing quote, is what it takes
  have hread : Lexeme.read '\'' ((doubled s.toList ++ ['\'']) ++ rest) =
      .ok (.quoted s, (doubled s.toList ++ ['\'']).length) := by
    rw [List.append_assoc, List.singleton_append,
      Lexeme.read_quote (readQuoted_doubled hrest s.toList), String.ofList_toList,
      List.length_append, List.length_singleton]
  rw [toList_quote, List.cons_append]
  exact h.cons _ rfl hread

end

end Tabular.Condition
