import Tabular.Proofs.Condition.Printing

set_option autoImplicit false

/-! # Asking about a column

The plainest conditions ask something of a column by means of a text. A column is written as a bare
word where that names it, and as a quoted name in braces otherwise (`columnText`). Every text can be
asked about: with its quotes doubled it is read back as it was (`ofText_ask`).
-/

namespace Tabular

namespace Condition

/-! ## Names -/

/-- Whether a name can be written as a bare word: it is a word, and not one that means something
else at the front of a condition. -/
def isBareName (name : String) : Bool :=
  name.toList.head?.any isWordStart && name.toList.all isWordPart &&
    [some Keyword.not, some .true, some .false, some .null].all (Keyword.ofWord? name != ·)

/-- How a column is written in a condition. -/
def columnText (name : String) : String :=
  if isBareName name then name else "\x7b" ++ quote name ++ "\x7d"

/-- The lexemes of a column. -/
def columnLexemes (name : String) : List Lexeme :=
  if isBareName name then [.word name] else [.openBrace, .quoted name, .closeBrace]

section

variable {rest : List Char} {ls : List Lexeme}

/-- The start of a word starts nothing else. -/
theorem Lexeme.read_word {c : Char} (hc : isWordStart c = true) :
    Lexeme.read c rest =
      .ok (.word (String.ofList (c :: rest.takeWhile isWordPart)),
        (rest.takeWhile isWordPart).length) := by
  have hne : ∀ d : Char, isWordStart d = false → c ≠ d := by
    rintro d hd rfl
    rw [hd] at hc
    cases hc
  have hnumeral : (c.isDigit || c == '.') = false := by
    rw [isDigit_of_isWordStart hc, Bool.false_or, beq_eq_false_iff_ne]
    exact hne _ (by decide)
  unfold Lexeme.read
  rw [if_neg (hne _ (by decide)), if_neg (hne _ (by decide)), if_neg (hne _ (by decide)),
    if_neg (hne _ (by decide)), if_neg (hne _ (by decide)), if_neg (hne _ (by decide)),
    if_neg (Bool.eq_false_iff.mp hnumeral), if_pos hc]

/-- A bare name in front of a blank is a word. -/
theorem Lexes.bareName {name : String} (hname : isBareName name = true)
    (h : Lexes (' ' :: rest) ls) : Lexes (name.toList ++ ' ' :: rest) (.word name :: ls) := by
  simp only [isBareName, Bool.and_eq_true, Option.any_eq_true, List.all_eq_true] at hname
  obtain ⟨⟨⟨c, hhead, hstart⟩, hparts⟩, -⟩ := hname
  cases hcs : name.toList with
  | nil =>
      rw [hcs] at hhead
      cases hhead
  | cons d more =>
      rw [hcs] at hhead hparts
      cases hhead
      have hmore : (more ++ ' ' :: rest).takeWhile isWordPart = more := by
        rw [List.takeWhile_append_of_pos fun e he => hparts e (List.mem_cons_of_mem _ he)]
        rw [List.takeWhile_cons_of_neg (by decide), List.append_nil]
      have hread : Lexeme.read c (more ++ ' ' :: rest) = .ok (.word name, more.length) := by
        rw [Lexeme.read_word hstart, hmore, ← hcs, String.ofList_toList]
      exact h.cons more (wordPart_plain (isWordPart_of_isWordStart hstart)).1 hread

/-- A column is scanned in front of a blank. -/
theorem Lexes.column (name : String) (h : Lexes (' ' :: rest) ls) :
    Lexes ((columnText name).toList ++ ' ' :: rest) (columnLexemes name ++ ls) := by
  rw [columnText, columnLexemes]
  split
  · next hname => exact Lexes.bareName hname h
  · simp only [String.toList_append, List.append_assoc]
    have hbrace : ('\x7d' :: ' ' :: rest).head? ≠ some '\'' := by simp
    exact (Lexes.quoted name hbrace h.closeBrace).openBrace

end

/-- A bare name means no truth value and not the empty text. -/
theorem wordCondition_of_isBareName {name : String} (h : isBareName name = true) :
    wordCondition name = .column name ∧ Keyword.ofWord? name ≠ some .not := by
  simp only [isBareName, Bool.and_eq_true, List.all_eq_true, bne_iff_ne] at h
  obtain ⟨-, hkeyword⟩ := h
  have hnot := hkeyword (some .not) (by simp)
  have htrue := hkeyword (some .true) (by simp)
  have hfalse := hkeyword (some .false) (by simp)
  have hnull := hkeyword (some .null) (by simp)
  refine ⟨?_, hnot⟩
  unfold wordCondition
  split
  · next h => exact absurd h htrue
  · next h => exact absurd h hfalse
  · next h => exact absurd h hnull
  · rfl

/-- The lexemes of a column write it. -/
theorem writes_columnLexemes {name : String} (hname : name ≠ "") :
    Writes .operand (columnLexemes name) (.column name) 0 := by
  rw [columnLexemes]
  split
  · next hbare =>
      intro tokens hls
      obtain ⟨t, left, rfl, ht, hleft⟩ := List.map_eq_cons_iff.mp hls
      obtain rfl := List.map_eq_nil_iff.mp hleft
      exact ⟨.word name, .word ht, (wordCondition_of_isBareName hbare).1, Nat.le_refl 0⟩
  · exact writes_column hname

/-- What is asked of a column is no negation. -/
theorem ne_not_of_columnLexemes {name w : String} {ls : List Lexeme}
    (h : (columnLexemes name ++ ls).head? = some (.word w)) : Keyword.ofWord? w ≠ some .not := by
  rw [columnLexemes] at h
  split at h
  · next hbare =>
      cases h
      exact (wordCondition_of_isBareName hbare).2
  · cases h

/-! ## Questions -/

/-- The text that asks something of a column by means of a text. -/
def ask (name : String) (q : Question) (s : String) : String :=
  columnText name ++ q.text ++ quote s

/-- A question starts with a blank. -/
theorem Question.exists_text (q : Question) : ∃ cs : List Char, q.text.toList = ' ' :: cs := by
  cases q with
  | relation r => cases r <;> exact ⟨_, rfl⟩
  | matching ignoreCase => cases ignoreCase <;> exact ⟨_, rfl⟩
  | like ignoreCase negated => cases ignoreCase <;> cases negated <;> exact ⟨_, rfl⟩

/-- **Every text can be asked about.** -/
theorem ofText_ask {name : String} (hname : name ≠ "") (q : Question) (s : String) :
    ofText (ask name q s).toList = .ok (q.join (.column name) (.text s)) := by
  have hlexes : Lexes (ask name q s).toList (columnLexemes name ++ (q.lexemes ++ [.quoted s])) := by
    obtain ⟨cs, hcs⟩ := q.exists_text
    have hquoted : Lexes ((quote s).toList ++ []) [.quoted s] := Lexes.quoted s (by simp) ScansAs.nil
    have hquestion := Lexes.question q hquoted
    rw [hcs, List.cons_append, List.append_nil] at hquestion
    simp only [ask, String.toList_append, List.append_assoc, hcs, List.cons_append]
    exact Lexes.column name hquestion
  have hwrites : Writes (.chain .or) (columnLexemes name ++ (q.lexemes ++ [.quoted s]))
      (q.join (.column name) (.text s)) 0 := by
    have hasked := (writes_columnLexemes hname).ask q (writes_text s)
    exact (hasked.asserted_of_ne_not fun w hw =>
      ne_not_of_columnLexemes hw).conjunction.disjunction
  exact ofText_of_writes hlexes hwrites (Nat.zero_le _)

example : ask "X" (.like false true) "it's" = "X NOT LIKE 'it''s'" := by decide +kernel

/-- The filter of what is asked of a column. -/
theorem compile_ask {E : PatternEngine} {name : String} (hname : name ≠ "") (q : Question)
    (s : String) : Filter.compile (ask name q s) E =
      .ok ⟨q.join (.column name) (.text s), ask name q s,
        PatternCache.ofKeys (q.join (.column name) (.text s)).literalPatterns E⟩ := by
  rw [Filter.compile, ofText_ask hname]
  rfl

end Condition

end Tabular
