import Tabular.Filter
import Tabular.Proofs.Condition.Compile
import Tabular.Proofs.Condition.Scanning

set_option autoImplicit false

/-! # Printing conditions

Every condition can be written as a text: numbers as their shortest text, texts in quotes, columns
as quoted names in braces, and everything else with each operand in parentheses (`print`). Reading
undoes printing (`compile_print`). First the printed text is scanned: its lexemes are those of the
condition (`scans_print`). Then these are a phrase that writes the condition (`writes_lexemes`).
-/

namespace Tabular

namespace Condition

/-! ## The printer -/

/-- A text in parentheses. -/
def enclose (s : String) : String := "(" ++ s ++ ")"

/-- How a relation is written in a condition. -/
def sign : Relation → String
  | .eq => "="
  | r => r.symbol

/-- How a negation is written in front of a keyword. -/
def notMark (negated : Bool) : String := if negated then " NOT" else ""

/-- How a question is written between its operands. -/
def Question.text : Question → String
  | relation r => " " ++ sign r ++ " "
  | matching ignoreCase => if ignoreCase then " ~* " else " ~ "
  | like ignoreCase negated => notMark negated ++ if ignoreCase then " ILIKE " else " LIKE "

/-- The **text of a condition**, with each operand in parentheses. -/
def print : Condition → String
  | or p q => enclose p.print ++ " OR " ++ enclose q.print
  | and p q => enclose p.print ++ " AND " ++ enclose q.print
  | not p => "NOT " ++ enclose p.print
  | compare r a b => enclose a.print ++ (Question.relation r).text ++ enclose b.print
  | between negated target low high =>
    enclose target.print ++ notMark negated ++ " BETWEEN " ++ enclose low.print ++ " AND "
      ++ enclose high.print
  | like ignoreCase negated value wildcard =>
    enclose value.print ++ (Question.like ignoreCase negated).text ++ enclose wildcard.print
  | matching ignoreCase value pattern =>
    enclose value.print ++ (Question.matching ignoreCase).text ++ enclose pattern.print
  | column name => "\x7b" ++ quote name ++ "\x7d"
  | number v => showNumber v
  | text s => quote s

/-- How deep parentheses and negations enclose each other in the text of a condition. -/
def nesting : Condition → Nat
  | or p q | and p q | compare _ p q | like _ _ p q | matching _ p q =>
    max p.nesting q.nesting + 1
  | not p => p.nesting + 2
  | between _ target low high => max target.nesting (max low.nesting high.nesting) + 1
  | column _ | number _ | text _ => 0

/-- The numbers that are written in a condition. -/
def numbers : Condition → List Float
  | or p q | and p q | compare _ p q | like _ _ p q | matching _ p q => p.numbers ++ q.numbers
  | not p => p.numbers
  | between _ target low high => target.numbers ++ (low.numbers ++ high.numbers)
  | number v => [v]
  | column _ | text _ => []

/-- The columns that are named in a condition. -/
def columns : Condition → List String
  | or p q | and p q | compare _ p q | like _ _ p q | matching _ p q => p.columns ++ q.columns
  | not p => p.columns
  | between _ target low high => target.columns ++ (low.columns ++ high.columns)
  | column name => [name]
  | number _ | text _ => []

/-! ## Lexemes -/

/-- Lexemes in parentheses. -/
def enclosed (ls : List Lexeme) : List Lexeme := .opening :: (ls ++ [.closing])

/-- The lexeme of a negation in front of a keyword. -/
def notLexemes (negated : Bool) : List Lexeme := if negated then [.word Keyword.not.word] else []

/-- The lexemes of a question between its operands. -/
def Question.lexemes : Question → List Lexeme
  | relation r => [.relation r]
  | matching ignoreCase => [.matching ignoreCase]
  | like ignoreCase negated => notLexemes negated ++ [.word (likeWord ignoreCase).word]

/-- The lexemes of the text of a condition. -/
def lexemes : Condition → List Lexeme
  | or p q => enclosed p.lexemes ++ .word Keyword.or.word :: enclosed q.lexemes
  | and p q => enclosed p.lexemes ++ .word Keyword.and.word :: enclosed q.lexemes
  | not p => .word Keyword.not.word :: enclosed p.lexemes
  | compare r a b => enclosed a.lexemes ++ ((Question.relation r).lexemes ++ enclosed b.lexemes)
  | between negated target low high =>
    enclosed target.lexemes ++ ((notLexemes negated ++ [.word Keyword.between.word]) ++
      (enclosed low.lexemes ++ .word Keyword.and.word :: enclosed high.lexemes))
  | like ignoreCase negated value wildcard =>
    enclosed value.lexemes ++
      ((Question.like ignoreCase negated).lexemes ++ enclosed wildcard.lexemes)
  | matching ignoreCase value pattern =>
    enclosed value.lexemes ++ ((Question.matching ignoreCase).lexemes ++ enclosed pattern.lexemes)
  | column name => [.openBrace, .quoted name, .closeBrace]
  | number v => [.number v]
  | text s => [.quoted s]

/-! ## Scanning the text -/

/-- Nothing follows, or a closing parenthesis does. -/
def Closes (rest : List Char) : Prop := ∀ c ∈ rest.head?, c = ')'

theorem closes_nil : Closes [] := fun _ hc => nomatch hc

theorem closes_closing (rest : List Char) : Closes (')' :: rest) := by
  intro c hc
  cases hc
  rfl

/-- A text **scans** as lexemes when it does so in front of all that closes. -/
def Scans (s : String) (ls : List Lexeme) : Prop :=
  ∀ (rest : List Char) (ms : List Lexeme), Closes rest → Lexes rest ms →
    Lexes (s.toList ++ rest) (ls ++ ms)

section

variable {s : String} {ls ms : List Lexeme} {rest : List Char}

/-- A text in parentheses scans in front of anything. -/
theorem Scans.parens (hs : Scans s ls) (h : Lexes rest ms) :
    Lexes ((enclose s).toList ++ rest) (enclosed ls ++ ms) := by
  have htext : (enclose s).toList ++ rest = '(' :: (s.toList ++ ')' :: rest) := by
    simp only [enclose, String.toList_append, List.append_assoc]
    rfl
  have hlexemes : enclosed ls ++ ms = .opening :: (ls ++ .closing :: ms) := by
    simp only [enclosed, List.cons_append, List.append_assoc, List.nil_append]
  rw [htext, hlexemes]
  exact (hs _ _ (closes_closing rest) h.closing).opening

/-- A keyword between blanks is a word. -/
theorem Lexes.mark (k : Keyword) (h : Lexes rest ms) :
    Lexes ((" " ++ k.word ++ " ").toList ++ rest) ([.word k.word] ++ ms) := by
  have htext : (" " ++ k.word ++ " ").toList ++ rest = ' ' :: (k.word.toList ++ ' ' :: rest) := by
    simp only [String.toList_append, List.append_assoc]
    rfl
  rw [htext]
  exact (Lexes.keyword k (h.blank rfl)).blank rfl

theorem Lexes.notMark (negated : Bool) (h : Lexes (' ' :: rest) ms) :
    Lexes ((notMark negated).toList ++ ' ' :: rest) (notLexemes negated ++ ms) := by
  cases negated with
  | false => exact h
  | true => exact (Lexes.keyword .not h).blank rfl

/-- A relation in front of a blank is one lexeme. -/
theorem Lexes.relation (r : Relation) (h : Lexes (' ' :: rest) ms) :
    Lexes ((sign r).toList ++ ' ' :: rest) (.relation r :: ms) := by
  cases r <;> exact h.cons _ rfl rfl

/-- A question is scanned in front of anything. -/
theorem Lexes.question (q : Question) (h : Lexes rest ms) :
    Lexes (q.text.toList ++ rest) (q.lexemes ++ ms) := by
  have hblank : Lexes (' ' :: rest) ms := h.blank rfl
  cases q with
  | relation r =>
      have htext : (Question.relation r).text.toList ++ rest =
          ' ' :: ((sign r).toList ++ ' ' :: rest) := by
        simp only [Question.text, String.toList_append, List.append_assoc]
        rfl
      rw [htext]
      exact (Lexes.relation r hblank).blank rfl
  | matching ignoreCase =>
      cases ignoreCase with
      | false => exact (hblank.cons [] rfl rfl).blank rfl
      | true => exact (hblank.cons ['*'] rfl rfl).blank rfl
  | like ignoreCase negated =>
      have htext : (Question.like ignoreCase negated).text.toList ++ rest =
          (Condition.notMark negated).toList ++
            ' ' :: ((likeWord ignoreCase).word.toList ++ ' ' :: rest) := by
        simp only [Question.text, String.toList_append, List.append_assoc]
        cases ignoreCase <;> rfl
      rw [htext, Question.lexemes, List.append_assoc]
      exact Lexes.notMark negated ((Lexes.keyword (likeWord ignoreCase) hblank).blank rfl)

/-- Two operands in parentheses scan as such, together with what stands between them. -/
theorem Scans.join {mark t : String} {marks ks : List Lexeme} (hs : Scans s ls) (ht : Scans t ks)
    (hmark : ∀ {rest : List Char} {ms : List Lexeme}, Lexes rest ms →
      Lexes (mark.toList ++ rest) (marks ++ ms)) :
    Scans (enclose s ++ mark ++ enclose t)
      (enclosed ls ++ (marks ++ enclosed ks)) := by
  intro rest ms _ h
  simp only [String.toList_append, List.append_assoc]
  exact hs.parens (hmark (ht.parens h))

end

/-- The text of a condition scans as its lexemes, if its numbers do. -/
theorem scans_print {c : Condition} (hnumbers : ∀ v ∈ c.numbers, Scans (showNumber v) [.number v]) :
    Scans c.print c.lexemes := by
  induction c with
  | or p q ihp ihq =>
      have hp := ihp fun v hv => hnumbers v (List.mem_append_left _ hv)
      have hq := ihq fun v hv => hnumbers v (List.mem_append_right _ hv)
      exact hp.join hq (Lexes.mark .or)
  | and p q ihp ihq =>
      have hp := ihp fun v hv => hnumbers v (List.mem_append_left _ hv)
      have hq := ihq fun v hv => hnumbers v (List.mem_append_right _ hv)
      exact hp.join hq (Lexes.mark .and)
  | compare r p q ihp ihq =>
      have hp := ihp fun v hv => hnumbers v (List.mem_append_left _ hv)
      have hq := ihq fun v hv => hnumbers v (List.mem_append_right _ hv)
      exact hp.join hq (Lexes.question (.relation r))
  | like ignoreCase negated p q ihp ihq =>
      have hp := ihp fun v hv => hnumbers v (List.mem_append_left _ hv)
      have hq := ihq fun v hv => hnumbers v (List.mem_append_right _ hv)
      exact hp.join hq (Lexes.question (.like ignoreCase negated))
  | matching ignoreCase p q ihp ihq =>
      have hp := ihp fun v hv => hnumbers v (List.mem_append_left _ hv)
      have hq := ihq fun v hv => hnumbers v (List.mem_append_right _ hv)
      exact hp.join hq (Lexes.question (.matching ignoreCase))
  | not p ih =>
      intro rest ms _ h
      rw [print, String.toList_append, List.append_assoc]
      exact Lexes.keyword .not (((ih hnumbers).parens h).blank rfl)
  | between negated target low high ihtarget ihlow ihhigh =>
      intro rest ms hrest h
      have htarget := ihtarget fun v hv => hnumbers v (List.mem_append_left _ hv)
      have hlow := ihlow fun v hv =>
        hnumbers v (List.mem_append_right _ (List.mem_append_left _ hv))
      have hhigh := ihhigh fun v hv =>
        hnumbers v (List.mem_append_right _ (List.mem_append_right _ hv))
      -- the bounds are printed as a conjunction of the two would be
      have hbounds := hlow.join hhigh (Lexes.mark .and) rest ms hrest h
      simp only [print, lexemes, String.toList_append, List.append_assoc] at hbounds ⊢
      refine htarget.parens (Lexes.notMark negated ?_)
      exact (Lexes.keyword .between (hbounds.blank rfl)).blank rfl
  | column name =>
      intro rest ms _ h
      have hbrace : ('\x7d' :: rest).head? ≠ some '\'' := by simp
      simp only [print, String.toList_append, List.append_assoc]
      exact (Lexes.quoted name hbrace h.closeBrace).openBrace
  | number v => exact hnumbers v (List.mem_singleton_self v)
  | text s =>
      intro rest ms hrest h
      refine Lexes.quoted s ?_ h
      intro hquote
      cases hrest _ hquote

/-- The text of a finite number without a minus sign scans as this number if it reads back. -/
theorem scans_showNumber {v : Float} (hfinite : v.isFinite = true)
    (hsign : hasMinus v = false)
    (hshow : readDecimal? (showNumber v).toList = some v) : Scans (showNumber v) [.number v] := by
  intro rest ms hrest h
  -- a text without sign is read as a numeral, from its first character on
  have hplain := isPlain_showNumber hfinite hsign
  rw [readDecimal?_of_plain hplain] at hshow
  refine h.numeral Lexeme.readsNumerals hplain hshow hfinite ?_ fun _ => rfl
  intro c hc
  rw [hrest c hc]
  decide

/-! ## The phrase that the lexemes form -/

/-- Lexemes **write** a condition when tokens that say them form a phrase that writes it, nested no
deeper than some levels. -/
def Writes (cat : Category) (ls : List Lexeme) (c : Condition) (levels : Nat) : Prop :=
  ∀ tokens : List Token, tokens.map Token.lexeme = ls →
    ∃ a : Tree, Derives cat tokens a ∧ a.ast = c ∧ a.nesting ≤ levels

theorem keyword?_of_lexeme {t : Token} {k : Keyword} (ht : t.lexeme = .word k.word) :
    t.keyword? = some k := by
  rw [Token.keyword?, ht]
  cases k <;> rfl

/-- The lexemes of a negatable keyword spell it. -/
theorem spells_of_lexemes {k : Keyword} {negated : Bool} {marks : List Token}
    (h : marks.map Token.lexeme = notLexemes negated ++ [.word k.word]) :
    Spells k negated marks := by
  cases negated with
  | false =>
      obtain ⟨t, left, rfl, ht, hleft⟩ := List.map_eq_cons_iff.mp h
      obtain rfl := List.map_eq_nil_iff.mp hleft
      exact .plain (keyword?_of_lexeme ht)
  | true =>
      obtain ⟨n, left, rfl, hn, hleft⟩ := List.map_eq_cons_iff.mp h
      obtain ⟨t, left, rfl, ht, hleft⟩ := List.map_eq_cons_iff.mp hleft
      obtain rfl := List.map_eq_nil_iff.mp hleft
      exact .negated (keyword?_of_lexeme hn) (keyword?_of_lexeme ht)

theorem Question.spelled_of_lexemes {q : Question} {marks : List Token}
    (h : marks.map Token.lexeme = q.lexemes) : q.Spelled marks := by
  cases q with
  | relation r =>
      obtain ⟨t, left, rfl, ht, hleft⟩ := List.map_eq_cons_iff.mp h
      obtain rfl := List.map_eq_nil_iff.mp hleft
      exact .relation ht
  | matching ignoreCase =>
      obtain ⟨t, left, rfl, ht, hleft⟩ := List.map_eq_cons_iff.mp h
      obtain rfl := List.map_eq_nil_iff.mp hleft
      exact .matching ht
  | like ignoreCase negated => exact .like (spells_of_lexemes h)

namespace Writes

variable {cat : Category} {ls ks : List Lexeme} {c d : Condition} {m n : Nat}

theorem mono (h : Writes cat ls c m) (hmn : m ≤ n) : Writes cat ls c n := by
  intro tokens hls
  obtain ⟨a, ha, hast, hnesting⟩ := h tokens hls
  exact ⟨a, ha, hast, Nat.le_trans hnesting hmn⟩

/-- A condition in parentheses is an operand, one level deeper. -/
theorem parens (h : Writes (.chain .or) ls c n) :
    Writes .operand (enclosed ls) c (n + 1) := by
  intro tokens hls
  obtain ⟨o, left, rfl, ho, hleft⟩ := List.map_eq_cons_iff.mp hls
  obtain ⟨us, vs, rfl, hus, hvs⟩ := List.map_eq_append_iff.mp hleft
  obtain ⟨t, left, rfl, ht, hleft⟩ := List.map_eq_cons_iff.mp hvs
  obtain rfl := List.map_eq_nil_iff.mp hleft
  obtain ⟨a, ha, hast, hnesting⟩ := h us hus
  exact ⟨.parens a, .parens ho ha ht, hast, Nat.succ_le_succ hnesting⟩

theorem plain (h : Writes .operand ls c n) : Writes .comparison ls c n := by
  intro tokens hls
  obtain ⟨a, ha, hast, hnesting⟩ := h tokens hls
  exact ⟨a, .plain ha, hast, hnesting⟩

theorem ask (q : Question) (hc : Writes .operand ls c n) (hd : Writes .operand ks d n) :
    Writes .comparison (ls ++ (q.lexemes ++ ks)) (q.join c d) n := by
  intro tokens hls
  obtain ⟨us, left, rfl, hus, hleft⟩ := List.map_eq_append_iff.mp hls
  obtain ⟨marks, vs, rfl, hmarks, hvs⟩ := List.map_eq_append_iff.mp hleft
  obtain ⟨a, ha, rfl, hnesting⟩ := hc us hus
  obtain ⟨b, hb, rfl, hnesting'⟩ := hd vs hvs
  exact ⟨.ask q a b, .ask ha (Question.spelled_of_lexemes hmarks) hb, rfl,
    Nat.max_le.mpr ⟨hnesting, hnesting'⟩⟩

theorem between (negated : Bool) {js : List Lexeme} {low high : Condition}
    (hc : Writes .operand ls c n) (hlow : Writes .operand ks low n)
    (hhigh : Writes .operand js high n) :
    Writes .comparison (ls ++ ((notLexemes negated ++ [.word Keyword.between.word]) ++
      (ks ++ .word Keyword.and.word :: js))) (.between negated c low high) n := by
  intro tokens hls
  obtain ⟨us, left, rfl, hus, hleft⟩ := List.map_eq_append_iff.mp hls
  obtain ⟨marks, left, rfl, hmarks, hleft⟩ := List.map_eq_append_iff.mp hleft
  obtain ⟨vs, left, rfl, hvs, hleft⟩ := List.map_eq_append_iff.mp hleft
  obtain ⟨t, ws, rfl, ht, hws⟩ := List.map_eq_cons_iff.mp hleft
  obtain ⟨a, ha, rfl, hnesting⟩ := hc us hus
  obtain ⟨b, hb, rfl, hnestingLow⟩ := hlow vs hvs
  obtain ⟨e, he, rfl, hnestingHigh⟩ := hhigh ws hws
  exact ⟨.between negated a b e,
    .between ha (spells_of_lexemes hmarks) hb (keyword?_of_lexeme ht) he, rfl,
    Nat.max_le.mpr ⟨hnesting, Nat.max_le.mpr ⟨hnestingLow, hnestingHigh⟩⟩⟩

/-- A comparison that does not start with the word `NOT` is no negation. -/
theorem asserted_of_ne_not (h : Writes .comparison ls c n)
    (hls : ∀ w, ls.head? = some (.word w) → Keyword.ofWord? w ≠ some .not) :
    Writes .negation ls c n := by
  rintro tokens rfl
  obtain ⟨a, ha, hast, hnesting⟩ := h tokens rfl
  refine ⟨a, .asserted ha fun t ht hnot => ?_, hast, hnesting⟩
  obtain ⟨w, hw⟩ := Token.exists_word hnot
  rw [Token.keyword?, hw] at hnot
  refine hls w ?_ hnot
  rw [List.head?_map, show tokens.head? = some t from ht, Option.map_some, hw]

/-- A comparison that does not start with a word is no negation. -/
theorem asserted (h : Writes .comparison ls c n) (hls : ∀ w, ls.head? ≠ some (.word w)) :
    Writes .negation ls c n :=
  h.asserted_of_ne_not fun w hw => absurd hw (hls w)

theorem not (h : Writes .negation ls c n) :
    Writes .negation (.word Keyword.not.word :: ls) (.not c) (n + 1) := by
  intro tokens hls
  obtain ⟨t, ts, rfl, ht, hts⟩ := List.map_eq_cons_iff.mp hls
  obtain ⟨a, ha, rfl, hnesting⟩ := h ts hts
  exact ⟨.not a, .not (keyword?_of_lexeme ht) ha, rfl, Nat.succ_le_succ hnesting⟩

/-- A phrase of its own is a chain of one. -/
theorem single {k : Connective} (h : Writes k.part ls c n) : Writes (.chain k) ls c n := by
  intro tokens hls
  obtain ⟨a, ha, rfl, hnesting⟩ := h tokens hls
  refine ⟨.chain k a [], .chain (.last ha), ?_, Nat.max_le.mpr ⟨hnesting, Nat.zero_le _⟩⟩
  rw [Tree.ast, Tree.astAll, balance]

/-- Two phrases with a connective between them are a chain of two. -/
theorem pair (k : Connective) (hc : Writes k.part ls c n) (hd : Writes k.part ks d n) :
    Writes (.chain k) (ls ++ .word k.keyword.word :: ks) (k.join c d) n := by
  intro tokens hls
  obtain ⟨us, left, rfl, hus, hleft⟩ := List.map_eq_append_iff.mp hls
  obtain ⟨t, vs, rfl, ht, hvs⟩ := List.map_eq_cons_iff.mp hleft
  obtain ⟨a, ha, rfl, hnesting⟩ := hc us hus
  obtain ⟨b, hb, rfl, hnesting'⟩ := hd vs hvs
  refine ⟨.chain k a [b], .chain (.more ha (keyword?_of_lexeme ht) (.last hb)), ?_,
    Nat.max_le.mpr ⟨hnesting, Nat.max_le.mpr ⟨hnesting', Nat.zero_le _⟩⟩⟩
  simp only [Tree.ast, Tree.astAll, balance, pairUp]

/-- A negation is a conjunction of one. -/
theorem conjunction (h : Writes .negation ls c n) : Writes (.chain .and) ls c n :=
  single (k := .and) h

/-- A conjunction is a disjunction of one. -/
theorem disjunction (h : Writes (.chain .and) ls c n) : Writes (.chain .or) ls c n :=
  single (k := .or) h

/-- A comparison that does not start with a word is a disjunction of one. -/
theorem whole (h : Writes .comparison ls c n) (hls : ∀ w, ls.head? ≠ some (.word w)) :
    Writes (.chain .or) ls c n :=
  (h.asserted hls).conjunction.disjunction

end Writes

/-- Lexemes in parentheses do not start with a word. -/
theorem head?_enclosed_append (ls ks : List Lexeme) (w : String) :
    (enclosed ls ++ ks).head? ≠ some (.word w) := by
  intro h
  cases h

theorem writes_number (v : Float) : Writes .operand [.number v] (.number v) 0 := by
  intro tokens hls
  obtain ⟨t, left, rfl, ht, hleft⟩ := List.map_eq_cons_iff.mp hls
  obtain rfl := List.map_eq_nil_iff.mp hleft
  exact ⟨.number v, .number ht, rfl, Nat.le_refl 0⟩

theorem writes_text (s : String) : Writes .operand [.quoted s] (.text s) 0 := by
  intro tokens hls
  obtain ⟨t, left, rfl, ht, hleft⟩ := List.map_eq_cons_iff.mp hls
  obtain rfl := List.map_eq_nil_iff.mp hleft
  exact ⟨.quoted s, .quoted ht, rfl, Nat.le_refl 0⟩

/-- A quoted name in braces is the column of that name. -/
theorem writes_column {name : String} (hname : name ≠ "") :
    Writes .operand [.openBrace, .quoted name, .closeBrace] (.column name) 0 := by
  intro tokens hls
  obtain ⟨o, left, rfl, ho, hleft⟩ := List.map_eq_cons_iff.mp hls
  obtain ⟨t, left, rfl, ht, hleft⟩ := List.map_eq_cons_iff.mp hleft
  obtain ⟨e, left, rfl, he, hleft⟩ := List.map_eq_cons_iff.mp hleft
  obtain rfl := List.map_eq_nil_iff.mp hleft
  have hparts : nameOf [t] = name := by
    show joinName "" t.part = name
    rw [joinName, if_pos rfl, Token.part, ht]
  have hbrace : ∀ p ∈ [t], p.isBrace = false := by
    intro p hp
    rw [List.mem_singleton.mp hp, Token.isBrace, ht]
  refine ⟨.name [t], .name ho hbrace (hparts ▸ hname) he, ?_, Nat.le_refl 0⟩
  rw [Tree.ast, hparts]

/-- Two conditions in parentheses are operands, one level deeper than both. -/
theorem Writes.operands {ls ks : List Lexeme} {c d : Condition} {m n : Nat}
    (hc : Writes (.chain .or) ls c m) (hd : Writes (.chain .or) ks d n) :
    Writes .operand (enclosed ls) c (max m n + 1) ∧
      Writes .operand (enclosed ks) d (max m n + 1) :=
  ⟨hc.parens.mono (Nat.succ_le_succ (Nat.le_max_left m n)),
    hd.parens.mono (Nat.succ_le_succ (Nat.le_max_right m n))⟩

/-- A condition in parentheses is no negation. -/
theorem Writes.negation {ls : List Lexeme} {c : Condition} {n : Nat}
    (h : Writes .operand (enclosed ls) c n) : Writes .negation (enclosed ls) c n :=
  h.plain.asserted (head?_enclosed_append ls [])

/-- The lexemes of a condition write it, if its columns have names. -/
theorem writes_lexemes {c : Condition} (hcolumns : ∀ name ∈ c.columns, name ≠ "") :
    Writes (.chain .or) c.lexemes c c.nesting := by
  induction c with
  | or p q ihp ihq =>
      have hp := ihp fun v hv => hcolumns v (List.mem_append_left _ hv)
      have hq := ihq fun v hv => hcolumns v (List.mem_append_right _ hv)
      obtain ⟨hp, hq⟩ := Writes.operands hp hq
      exact Writes.pair .or hp.negation.conjunction hq.negation.conjunction
  | and p q ihp ihq =>
      have hp := ihp fun v hv => hcolumns v (List.mem_append_left _ hv)
      have hq := ihq fun v hv => hcolumns v (List.mem_append_right _ hv)
      obtain ⟨hp, hq⟩ := Writes.operands hp hq
      exact (Writes.pair .and hp.negation hq.negation).disjunction
  | not p ih =>
      have hp : Writes (.chain .or) p.lexemes p p.nesting := ih hcolumns
      exact hp.parens.negation.not.conjunction.disjunction
  | compare r p q ihp ihq =>
      have hp := ihp fun v hv => hcolumns v (List.mem_append_left _ hv)
      have hq := ihq fun v hv => hcolumns v (List.mem_append_right _ hv)
      obtain ⟨hp, hq⟩ := Writes.operands hp hq
      exact (hp.ask (.relation r) hq).whole (head?_enclosed_append _ _)
  | like ignoreCase negated p q ihp ihq =>
      have hp := ihp fun v hv => hcolumns v (List.mem_append_left _ hv)
      have hq := ihq fun v hv => hcolumns v (List.mem_append_right _ hv)
      obtain ⟨hp, hq⟩ := Writes.operands hp hq
      exact (hp.ask (.like ignoreCase negated) hq).whole (head?_enclosed_append _ _)
  | matching ignoreCase p q ihp ihq =>
      have hp := ihp fun v hv => hcolumns v (List.mem_append_left _ hv)
      have hq := ihq fun v hv => hcolumns v (List.mem_append_right _ hv)
      obtain ⟨hp, hq⟩ := Writes.operands hp hq
      exact (hp.ask (.matching ignoreCase) hq).whole (head?_enclosed_append _ _)
  | between negated target low high ihtarget ihlow ihhigh =>
      have htarget : Writes (.chain .or) target.lexemes target target.nesting :=
        ihtarget fun v hv => hcolumns v (List.mem_append_left _ hv)
      have hlow : Writes (.chain .or) low.lexemes low low.nesting := ihlow fun v hv =>
        hcolumns v (List.mem_append_right _ (List.mem_append_left _ hv))
      have hhigh : Writes (.chain .or) high.lexemes high high.nesting := ihhigh fun v hv =>
        hcolumns v (List.mem_append_right _ (List.mem_append_right _ hv))
      have hbetween := Writes.between negated
        (htarget.parens.mono (n := (between negated target low high).nesting)
          (by simp only [nesting]; omega))
        (hlow.parens.mono (by simp only [nesting]; omega))
        (hhigh.parens.mono (by simp only [nesting]; omega))
      exact hbetween.whole (head?_enclosed_append _ _)
  | column name =>
      have hname := hcolumns name (List.mem_singleton_self name)
      exact (writes_column hname).plain.whole fun w h => nomatch h
  | number v => exact (writes_number v).plain.whole fun w h => nomatch h
  | text s => exact (writes_text s).plain.whole fun w h => nomatch h

/-! ## Reading undoes printing -/

section

variable {text : List Char} {ls : List Lexeme} {c : Condition} {levels : Nat}
  (hlexes : Lexes text ls) (hwrites : Writes (.chain .or) ls c levels)
include hlexes hwrites

/-- A text whose lexemes write a condition is a disjunction that does. -/
theorem exists_derives_of_writes : ∃ (tokens : List Token) (a : Tree),
    Token.ofText text = .ok tokens ∧ Derives (.chain .or) tokens a ∧ a.ast = c ∧
      a.nesting ≤ levels := by
  obtain ⟨tokens, hscan, hlexemes⟩ := hlexes 0
  obtain ⟨a, ha, hast, hnesting⟩ := hwrites tokens hlexemes
  exact ⟨tokens, a, hscan, ha, hast, hnesting⟩

/-- A text whose lexemes write a condition is read as the condition. -/
theorem ofText_of_writes (hlevels : levels ≤ nestingLimit) : ofText text = .ok c := by
  obtain ⟨tokens, a, htokens, ha, rfl, hnesting⟩ := exists_derives_of_writes hlexes hwrites
  rw [ofText, htokens]
  exact ofTokens_of_derives ha (Nat.le_trans hnesting hlevels)

end

/-- A text that scans as lexemes in front of all that closes does so alone. -/
theorem Scans.lexes {s : String} {ls : List Lexeme} (h : Scans s ls) : Lexes s.toList ls := by
  have hnil := h [] [] closes_nil ScansAs.nil
  rwa [List.append_nil, List.append_nil] at hnil

/-- **Reading undoes printing.** The text of a condition compiles, and to this very condition, when
its columns have names, its numbers are finite, have no minus sign and read back from their texts,
and parentheses and negations enclose each other no deeper in the text than may be read. -/
theorem compile_print (c : Condition)
    (hnumbers : ∀ v ∈ c.numbers, v.isFinite = true ∧ hasMinus v = false)
    (hshow : ∀ v ∈ c.numbers, readDecimal? (showNumber v).toList = some v)
    (hcolumns : ∀ name ∈ c.columns, name ≠ "") (hnesting : c.nesting ≤ nestingLimit) :
    ∃ f : Filter, Filter.compile c.print = .ok f ∧ f.condition = c := by
  have hscans : Scans c.print c.lexemes := scans_print fun v hv =>
    scans_showNumber (hnumbers v hv).1 (hnumbers v hv).2 (hshow v hv)
  have hread := ofText_of_writes hscans.lexes (writes_lexemes hcolumns) hnesting
  refine ⟨⟨c, c.print, PatternCache.ofKeys c.literalPatterns⟩, ?_, rfl⟩
  rw [Filter.compile, hread]
  rfl

/-- A condition with a quote in a name and in a text, and with two numbers. -/
def quotedSample : Condition :=
  .and (.not (.like true true (.column "it's") (.text "_'%")))
    (.compare .le (.number 0.5) (.number 3))

theorem compile_print_quotedSample :
    ∃ f : Filter, Filter.compile quotedSample.print = .ok f ∧ f.condition = quotedSample :=
  compile_print quotedSample (by decide +kernel) (by decide +kernel) (by decide) (by decide)

example : quotedSample.print =
    "(NOT ((\x7b'it''s'\x7d) NOT ILIKE ('_''%'))) AND ((0.5) <= (3))" := by
  decide +kernel

end Condition

end Tabular
