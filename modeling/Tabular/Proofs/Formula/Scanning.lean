import Tabular.Formula.Token
import Tabular.Proofs.Decimal.Sign
import Tabular.Proofs.Text.Scanner

set_option autoImplicit false

/-! # Scanning formulas

The lexemes of a text are found from its end to its front, one lemma for each kind of token.
Conversely whatever is scanned can be written down: its numbers are finite and have no minus sign,
and the names of its columns can stand in braces (`isSound_of_scan`).
-/

namespace Tabular.Formula

/-- Formulas read numerals. -/
theorem Lexeme.readsNumerals : ReadsNumerals Lexeme.read .number := by
  intro c cs hc
  have hstart : (c.isDigit || c == '.') = true := by simpa using hc
  unfold Lexeme.read
  cases scanNumeral (c :: cs) <;> rw [if_neg (ne_of_numeralStart hc (by decide)), if_pos hstart]

/-- A text **lexes** to some lexemes when its tokens say them. -/
abbrev Lexes : List Char → List Lexeme → Prop :=
  ScansAs Lexeme.read (fun lexeme _ offset => ⟨lexeme, offset⟩) Token.lexeme

/-- A name **fits in braces** when it is not empty and has no blank at its ends and no closing
brace. -/
def FitsInBraces (name : String) : Prop :=
  name ≠ "" ∧ trim name.toList = name.toList ∧ '\x7d' ∉ name.toList

instance : DecidablePred FitsInBraces := fun name =>
  inferInstanceAs (Decidable (name ≠ "" ∧ trim name.toList = name.toList ∧ '\x7d' ∉ name.toList))

/-! ## One token after the other -/

section

variable {rest : List Char} {ls : List Lexeme}

theorem Lexes.opening (h : Lexes rest ls) : Lexes ('(' :: rest) (.opening :: ls) :=
  h.cons [] rfl rfl

theorem Lexes.closing (h : Lexes rest ls) : Lexes (')' :: rest) (.closing :: ls) :=
  h.cons [] rfl rfl

theorem Lexes.comma (h : Lexes rest ls) : Lexes (',' :: rest) (.comma :: ls) :=
  h.cons [] rfl rfl

/-- An operator in front of a blank is one lexeme. -/
theorem Lexes.operator (o : Operator) (h : Lexes (' ' :: rest) ls) :
    Lexes (o.symbol.toList ++ ' ' :: rest) (.operator o :: ls) := by
  cases o <;> exact h.cons _ rfl rfl

/-- The name of a function in front of a parenthesis is one lexeme. -/
theorem Lexes.function (f : Function) (h : Lexes ('(' :: rest) ls) :
    Lexes (f.name.toList ++ '(' :: rest) (.function f :: ls) := by
  cases f <;> exact h.cons _ rfl rfl

/-- A name in braces is a column. -/
theorem Lexes.column {name : String} (hname : FitsInBraces name) (h : Lexes rest ls) :
    Lexes ('\x7b' :: (name.toList ++ '\x7d' :: rest)) (.column name :: ls) := by
  obtain ⟨hne, htrim, hbrace⟩ := hname
  -- the closing brace of the name is the first one
  have htake : (name.toList ++ '\x7d' :: rest).takeWhile (· != '\x7d') = name.toList := by
    have hopen : ∀ c ∈ name.toList, (c != '\x7d') = true := by
      intro c hc
      have hne : c ≠ '\x7d' := fun heq => hbrace (heq ▸ hc)
      simpa using hne
    rw [List.takeWhile_append_of_pos hopen]
    simp
  have hread : Lexeme.read '\x7b' ((name.toList ++ ['\x7d']) ++ rest) =
      .ok (.column name, (name.toList ++ ['\x7d']).length) := by
    obtain ⟨c, cs, hcs⟩ : ∃ c cs, name.toList = c :: cs :=
      List.exists_cons_of_ne_nil (by simpa using hne)
    have hlength : ¬ name.toList.length = (name.toList ++ '\x7d' :: rest).length := by
      rw [List.length_append, List.length_cons]
      omega
    rw [List.append_assoc, List.singleton_append, Lexeme.read, if_pos rfl]
    simp only [htake, if_neg hlength, htrim]
    rw [hcs]
    simp only [← hcs, String.ofList_toList, List.length_append, List.length_singleton]
  have htext : '\x7b' :: (name.toList ++ '\x7d' :: rest) =
      '\x7b' :: ((name.toList ++ ['\x7d']) ++ rest) := by
    rw [List.append_assoc, List.singleton_append]
  rw [htext]
  exact h.cons _ rfl hread

end

/-! ## What is scanned can be written -/

/-- A lexeme is **sound** when its number is finite and has no minus sign, and its column has a name
that fits in braces. -/
def Lexeme.IsSound : Lexeme → Prop
  | number v => v.isFinite = true ∧ hasMinus v = false
  | column name => FitsInBraces name
  | _ => True

/-- What stands between braces, without the blanks at its ends, fits in braces. -/
theorem fitsInBraces_of_trim {raw name : List Char} (hbrace : '\x7d' ∉ raw)
    (htrim : trim raw = name) (hne : name ≠ []) : FitsInBraces (String.ofList name) := by
  subst htrim
  refine ⟨by simpa using hne, ?_, ?_⟩
  · rw [String.toList_ofList, trim_trim]
  · rw [String.toList_ofList]
    exact fun h => hbrace (trim_subset raw h)

/-- A word fits in braces. -/
theorem fitsInBraces_word {c : Char} {tail : List Char} (hc : isWordStart c = true)
    (htail : ∀ d ∈ tail, isWordPart d = true) : FitsInBraces (String.ofList (c :: tail)) := by
  have hplain : ∀ d ∈ c :: tail, isBlank d = false ∧ d ≠ '\x7d' := by
    intro d hd
    rcases List.mem_cons.mp hd with rfl | hd
    · exact wordPart_plain (isWordPart_of_isWordStart hc)
    · exact wordPart_plain (htail d hd)
  refine fitsInBraces_of_trim (fun h => (hplain _ h).2 rfl) ?_ (List.cons_ne_nil c tail)
  exact trim_of_ends (fun d hd => (hplain d (List.mem_of_mem_head? hd)).1)
    fun d hd => (hplain d (List.mem_of_mem_getLast? hd)).1

/-- A lexeme that is read is sound. -/
theorem Lexeme.isSound_of_read {c : Char} {rest : List Char} {lexeme : Lexeme} {more : Nat}
    (h : Lexeme.read c rest = .ok (lexeme, more)) : lexeme.IsSound := by
  unfold Lexeme.read at h
  dsimp only at h
  split at h
  · -- a name in braces
    split at h
    · cases h
    · split at h
      · cases h
      · next name hne =>
          cases h
          refine fitsInBraces_of_trim (fun hmem => ?_) rfl hne
          simpa using List.all_eq_true.mp List.all_takeWhile _ hmem
  · split at h
    · -- a numeral
      split at h
      · next hscan =>
          cases h
          exact unsigned_of_scanNumeral hscan
      · cases h
    · split at h
      · -- a word
        next hstart =>
          split at h
          · cases h
            trivial
          · cases h
            exact fitsInBraces_word hstart (List.all_eq_true.mp List.all_takeWhile)
      · -- a parenthesis, a comma or an operator
        repeat' split at h
        all_goals cases h <;> trivial

/-- **Every scanned lexeme is sound.** -/
theorem isSound_of_scan {cs : List Char} {offset : Nat} {tokens : List Token}
    (h : Token.scan offset cs = .ok tokens) : ∀ t ∈ tokens, t.lexeme.IsSound := by
  intro t ht
  obtain ⟨_, c, rest, lexeme, more, -, -, hread, rfl⟩ := exists_read_of_mem_scanWith h t ht
  exact Lexeme.isSound_of_read hread

end Tabular.Formula
