import Tabular.Proofs.Condition.Printing
import Tabular.Proofs.Text.Scanner

set_option autoImplicit false

/-! # Conditions in parentheses

A text that is scanned alone is scanned in the same way in front of whatever divides it from what
comes after, as a closing parenthesis does (`yields_append`), and what tokens write does not depend
on where they stand (`portable_of_derives`). So a text in parentheses is an operand of whatever
stands around it.
-/

namespace Tabular.Condition

/-! ## What tokens say -/

/-- What a token **says**, wherever it stands: its lexeme and its characters. -/
def Token.content (t : Token) : Lexeme × String := (t.lexeme, t.text)

section

variable {t u : Token} (h : t.content = u.content)
include h

theorem Token.lexeme_congr : t.lexeme = u.lexeme := (Prod.mk.inj h).1

theorem Token.keyword?_congr : t.keyword? = u.keyword? := by
  rw [Token.keyword?, Token.keyword?, lexeme_congr h]

theorem Token.isBrace_congr : t.isBrace = u.isBrace := by
  rw [Token.isBrace, Token.isBrace, lexeme_congr h]

theorem Token.part_congr : t.part = u.part := by
  have htext : t.text = u.text := (Prod.mk.inj h).2
  rw [Token.part, Token.part, lexeme_congr h, htext]

end

section

variable {ts us : List Token} (h : us.map Token.content = ts.map Token.content)
include h

/-- What depends on what a token says only is the same for tokens that say the same. -/
theorem map_congr_of_content {α : Type} {f : Token → α}
    (hf : ∀ {t u : Token}, t.content = u.content → f t = f u) : us.map f = ts.map f := by
  induction ts generalizing us with
  | nil =>
      obtain rfl := List.map_eq_nil_iff.mp h
      rfl
  | cons t ts ih =>
      obtain ⟨u, us, rfl, hu, hus⟩ := List.map_eq_cons_iff.mp h
      rw [List.map_cons, List.map_cons, hf hu, ih hus]

theorem nameOf_congr : nameOf us = nameOf ts := by
  have hparts := map_congr_of_content h Token.part_congr
  have hname : ∀ ps : List Token, nameOf ps = (ps.map Token.part).foldl joinName "" := by
    intro ps
    rw [nameOf, List.foldl_map]
  rw [hname, hname, hparts]

theorem noBrace_congr (hts : ∀ p ∈ ts, p.isBrace = false) : ∀ p ∈ us, p.isBrace = false := by
  have hbraces := map_congr_of_content h Token.isBrace_congr
  intro p hp
  have hmem : p.isBrace ∈ ts.map Token.isBrace := hbraces ▸ List.mem_map_of_mem hp
  obtain ⟨q, hq, heq⟩ := List.mem_map.mp hmem
  exact heq.symm.trans (hts q hq)

theorem Spells.congr {k : Keyword} {negated : Bool} (hts : Spells k negated ts) :
    Spells k negated us := by
  cases hts with
  | plain ht =>
      obtain ⟨u, rfl, hu⟩ := List.map_eq_singleton_iff.mp h
      exact .plain ((Token.keyword?_congr hu).trans ht)
  | negated hn ht =>
      obtain ⟨m, left, rfl, hm, hleft⟩ := List.map_eq_cons_iff.mp h
      obtain ⟨u, rfl, hu⟩ := List.map_eq_singleton_iff.mp hleft
      exact .negated ((Token.keyword?_congr hm).trans hn) ((Token.keyword?_congr hu).trans ht)

theorem Question.Spelled.congr {q : Question} (hts : q.Spelled ts) : q.Spelled us := by
  cases hts with
  | relation ht =>
      obtain ⟨u, rfl, hu⟩ := List.map_eq_singleton_iff.mp h
      exact .relation ((Token.lexeme_congr hu).trans ht)
  | matching ht =>
      obtain ⟨u, rfl, hu⟩ := List.map_eq_singleton_iff.mp h
      exact .matching ((Token.lexeme_congr hu).trans ht)
  | like hmarks => exact .like (hmarks.congr h)

end

/-! ## Phrases at other places -/

/-- A phrase is **portable** when tokens that say the same, wherever they stand, are a phrase of its
class that writes the same condition, nested as deep. -/
def Portable (cat : Category) (ts : List Token) (a : Tree) : Prop :=
  ∀ us : List Token, us.map Token.content = ts.map Token.content →
    ∃ b : Tree, Derives cat us b ∧ b.ast = a.ast ∧ b.nesting = a.nesting

/-- The same of operands with a connective between them. -/
def PortableChain (c : Connective) (ts : List Token) (a : Tree) (as : List Tree) : Prop :=
  ∀ us : List Token, us.map Token.content = ts.map Token.content →
    ∃ (b : Tree) (bs : List Tree), DerivesChain c us b bs ∧ b.ast = a.ast ∧
      b.nesting = a.nesting ∧ Tree.astAll bs = Tree.astAll as ∧
      Tree.nestingAll bs = Tree.nestingAll as

theorem portable_number {t : Token} {v : Float} (ht : t.lexeme = .number v) :
    Portable .operand [t] (.number v) := by
  intro us h
  obtain ⟨u, rfl, hu⟩ := List.map_eq_singleton_iff.mp h
  exact ⟨.number v, .number ((Token.lexeme_congr hu).trans ht), rfl, rfl⟩

theorem portable_quoted {t : Token} {s : String} (ht : t.lexeme = .quoted s) :
    Portable .operand [t] (.quoted s) := by
  intro us h
  obtain ⟨u, rfl, hu⟩ := List.map_eq_singleton_iff.mp h
  exact ⟨.quoted s, .quoted ((Token.lexeme_congr hu).trans ht), rfl, rfl⟩

theorem portable_word {t : Token} {w : String} (ht : t.lexeme = .word w) :
    Portable .operand [t] (.word w) := by
  intro us h
  obtain ⟨u, rfl, hu⟩ := List.map_eq_singleton_iff.mp h
  exact ⟨.word w, .word ((Token.lexeme_congr hu).trans ht), rfl, rfl⟩

theorem portable_name {o c : Token} {parts : List Token} (ho : o.lexeme = .openBrace)
    (hparts : ∀ p ∈ parts, p.isBrace = false) (hname : nameOf parts ≠ "")
    (hc : c.lexeme = .closeBrace) : Portable .operand (o :: (parts ++ [c])) (.name parts) := by
  intro us h
  obtain ⟨o', left, rfl, ho', hleft⟩ := List.map_eq_cons_iff.mp h
  rw [List.map_append] at hleft
  obtain ⟨parts', left, rfl, hparts', hleft⟩ := List.map_eq_append_iff.mp hleft
  obtain ⟨c', rfl, hc'⟩ := List.map_eq_singleton_iff.mp hleft
  have hsame := nameOf_congr hparts'
  refine ⟨.name parts', .name ((Token.lexeme_congr ho').trans ho) (noBrace_congr hparts' hparts)
    (hsame ▸ hname) ((Token.lexeme_congr hc').trans hc), ?_, rfl⟩
  rw [Tree.ast, Tree.ast, hsame]

theorem portable_parens {o c : Token} {ts : List Token} {a : Tree} (ho : o.lexeme = .opening)
    (ha : Portable (.chain .or) ts a) (hc : c.lexeme = .closing) :
    Portable .operand (o :: (ts ++ [c])) (.parens a) := by
  intro us h
  obtain ⟨o', left, rfl, ho', hleft⟩ := List.map_eq_cons_iff.mp h
  rw [List.map_append] at hleft
  obtain ⟨ts', left, rfl, hts', hleft⟩ := List.map_eq_append_iff.mp hleft
  obtain ⟨c', rfl, hc'⟩ := List.map_eq_singleton_iff.mp hleft
  obtain ⟨b, hb, hast, hnesting⟩ := ha ts' hts'
  exact ⟨.parens b, .parens ((Token.lexeme_congr ho').trans ho) hb
    ((Token.lexeme_congr hc').trans hc), hast, congrArg (· + 1) hnesting⟩

theorem portable_plain {ts : List Token} {a : Tree} (ha : Portable .operand ts a) :
    Portable .comparison ts a := by
  intro us h
  obtain ⟨b, hb, hast, hnesting⟩ := ha us h
  exact ⟨b, .plain hb, hast, hnesting⟩

theorem portable_ask {q : Question} {us marks vs : List Token} {a b : Tree}
    (ha : Portable .operand us a) (hq : q.Spelled marks) (hb : Portable .operand vs b) :
    Portable .comparison (us ++ (marks ++ vs)) (.ask q a b) := by
  intro ts h
  rw [List.map_append, List.map_append] at h
  obtain ⟨us', left, rfl, hus', hleft⟩ := List.map_eq_append_iff.mp h
  obtain ⟨marks', vs', rfl, hmarks', hvs'⟩ := List.map_eq_append_iff.mp hleft
  obtain ⟨a', ha', hast, hnesting⟩ := ha us' hus'
  obtain ⟨b', hb', hast', hnesting'⟩ := hb vs' hvs'
  refine ⟨.ask q a' b', .ask ha' (hq.congr hmarks') hb', ?_, ?_⟩
  · rw [Tree.ast, Tree.ast, hast, hast']
  · rw [Tree.nesting, Tree.nesting, hnesting, hnesting']

theorem portable_between {negated : Bool} {us marks vs ws : List Token} {t : Token}
    {a low high : Tree} (ha : Portable .operand us a) (hmarks : Spells .between negated marks)
    (hlow : Portable .operand vs low) (ht : t.keyword? = some .and)
    (hhigh : Portable .operand ws high) :
    Portable .comparison (us ++ (marks ++ (vs ++ t :: ws))) (.between negated a low high) := by
  intro ts h
  rw [List.map_append, List.map_append, List.map_append, List.map_cons] at h
  obtain ⟨us', left, rfl, hus', hleft⟩ := List.map_eq_append_iff.mp h
  obtain ⟨marks', left, rfl, hmarks', hleft⟩ := List.map_eq_append_iff.mp hleft
  obtain ⟨vs', left, rfl, hvs', hleft⟩ := List.map_eq_append_iff.mp hleft
  obtain ⟨t', ws', rfl, ht', hws'⟩ := List.map_eq_cons_iff.mp hleft
  obtain ⟨a', ha', hast, hnesting⟩ := ha us' hus'
  obtain ⟨low', hlow', hastLow, hnestingLow⟩ := hlow vs' hvs'
  obtain ⟨high', hhigh', hastHigh, hnestingHigh⟩ := hhigh ws' hws'
  refine ⟨.between negated a' low' high', .between ha' (hmarks.congr hmarks') hlow'
    ((Token.keyword?_congr ht').trans ht) hhigh', ?_, ?_⟩
  · rw [Tree.ast, Tree.ast, hast, hastLow, hastHigh]
  · rw [Tree.nesting, Tree.nesting, hnesting, hnestingLow, hnestingHigh]

theorem portable_not {t : Token} {ts : List Token} {a : Tree} (ht : t.keyword? = some .not)
    (ha : Portable .negation ts a) : Portable .negation (t :: ts) (.not a) := by
  intro us h
  obtain ⟨t', ts', rfl, ht', hts'⟩ := List.map_eq_cons_iff.mp h
  obtain ⟨b, hb, hast, hnesting⟩ := ha ts' hts'
  refine ⟨.not b, .not ((Token.keyword?_congr ht').trans ht) hb, ?_, congrArg (· + 1) hnesting⟩
  rw [Tree.ast, Tree.ast, hast]

theorem portable_asserted {ts : List Token} {a : Tree} (ha : Portable .comparison ts a)
    (hts : ∀ t ∈ ts.head?, t.keyword? ≠ some .not) : Portable .negation ts a := by
  intro us h
  obtain ⟨b, hb, hast, hnesting⟩ := ha us h
  refine ⟨b, .asserted hb fun u hu => ?_, hast, hnesting⟩
  have hkeywords := congrArg List.head? (map_congr_of_content h Token.keyword?_congr)
  rw [List.head?_map, List.head?_map, Option.mem_def.mp hu, Option.map_some] at hkeywords
  obtain ⟨t, ht, heq⟩ := Option.map_eq_some_iff.mp hkeywords.symm
  exact heq ▸ hts t ht

theorem portable_last {c : Connective} {ts : List Token} {a : Tree} (ha : Portable c.part ts a) :
    PortableChain c ts a [] := by
  intro us h
  obtain ⟨b, hb, hast, hnesting⟩ := ha us h
  exact ⟨b, [], .last hb, hast, hnesting, rfl, rfl⟩

theorem portable_more {c : Connective} {ts us : List Token} {t : Token} {a b : Tree}
    {bs : List Tree} (ha : Portable c.part ts a) (ht : t.keyword? = some c.keyword)
    (hbs : PortableChain c us b bs) : PortableChain c (ts ++ t :: us) a (b :: bs) := by
  intro vs h
  rw [List.map_append, List.map_cons] at h
  obtain ⟨ts', left, rfl, hts', hleft⟩ := List.map_eq_append_iff.mp h
  obtain ⟨t', us', rfl, ht', hus'⟩ := List.map_eq_cons_iff.mp hleft
  obtain ⟨a', ha', hast, hnesting⟩ := ha ts' hts'
  obtain ⟨b', bs', hbs', hastFirst, hnestingFirst, hastAll, hnestingAll⟩ := hbs us' hus'
  refine ⟨a', b' :: bs', .more ha' ((Token.keyword?_congr ht').trans ht) hbs', hast, hnesting,
    ?_, ?_⟩
  · rw [Tree.astAll, Tree.astAll, hastFirst, hastAll]
  · rw [Tree.nestingAll, Tree.nestingAll, hnestingFirst, hnestingAll]

theorem portable_chain {c : Connective} {ts : List Token} {a : Tree} {as : List Tree}
    (h : PortableChain c ts a as) : Portable (.chain c) ts (.chain c a as) := by
  intro us hus
  obtain ⟨b, bs, hbs, hast, hnesting, hastAll, hnestingAll⟩ := h us hus
  refine ⟨.chain c b bs, .chain hbs, ?_, ?_⟩
  · rw [Tree.ast, Tree.ast, hast, hastAll]
  · rw [Tree.nesting, Tree.nesting, hnesting, hnestingAll]

mutual

/-- **Every phrase is portable.** -/
theorem portable_of_derives : ∀ {cat : Category} {ts : List Token} {a : Tree},
    Derives cat ts a → Portable cat ts a
  | _, _, _, .number ht => portable_number ht
  | _, _, _, .quoted ht => portable_quoted ht
  | _, _, _, .word ht => portable_word ht
  | _, _, _, .name ho hparts hname hc => portable_name ho hparts hname hc
  | _, _, _, .parens ho ha hc => portable_parens ho (portable_of_derives ha) hc
  | _, _, _, .plain ha => portable_plain (portable_of_derives ha)
  | _, _, _, .ask ha hq hb => portable_ask (portable_of_derives ha) hq (portable_of_derives hb)
  | _, _, _, .between ha hmarks hlow ht hhigh =>
      portable_between (portable_of_derives ha) hmarks (portable_of_derives hlow) ht
        (portable_of_derives hhigh)
  | _, _, _, .not ht ha => portable_not ht (portable_of_derives ha)
  | _, _, _, .asserted ha hts => portable_asserted (portable_of_derives ha) hts
  | _, _, _, .chain h => portable_chain (portableChain_of_derives h)

theorem portableChain_of_derives : ∀ {c : Connective} {ts : List Token} {a : Tree}
    {as : List Tree}, DerivesChain c ts a as → PortableChain c ts a as
  | _, _, _, _, .last ha => portable_last (portable_of_derives ha)
  | _, _, _, _, .more ha ht hbs =>
      portable_more (portable_of_derives ha) ht (portableChain_of_derives hbs)

end

/-! ## Texts in front of others -/

/-- A text **yields** contents when its tokens have them. -/
abbrev Yields : List Char → List (Lexeme × String) → Prop :=
  ScansAs Lexeme.read (fun lexeme cs offset => ⟨lexeme, String.ofList cs, offset⟩) Token.content

/-- What is in quotes is read in the same way in front of a character that is no quote. -/
theorem readQuoted_append {cs rest s : List Char} {count : Nat} (hrest : rest.head? ≠ some '\'')
    (h : readQuoted cs = some (s, count)) :
    readQuoted (cs ++ rest) = some (s, count) ∧ count ≤ cs.length := by
  fun_induction readQuoted cs generalizing s count with
  | case1 cs ih =>
      obtain ⟨⟨s', count'⟩, hread, heq⟩ := Option.map_eq_some_iff.mp h
      cases heq
      obtain ⟨happend, hcount⟩ := ih hread
      rw [List.cons_append, List.cons_append, readQuoted, happend]
      exact ⟨rfl, by simp only [List.length_cons]; omega⟩
  | case2 cs hquote =>
      cases h
      refine ⟨?_, by simp⟩
      rw [List.cons_append, readQuoted]
      exact append_ne_cons_of_head hquote hrest
  | case3 c cs hquote hne ih =>
      obtain ⟨⟨s', count'⟩, hread, heq⟩ := Option.map_eq_some_iff.mp h
      cases heq
      obtain ⟨happend, hcount⟩ := ih hread
      rw [List.cons_append, readQuoted, happend]
      · exact ⟨rfl, by simp only [List.length_cons]; omega⟩
      · intro left heq
        exact absurd heq hne
      · exact hne
  | case4 => cases h

section

variable {rest : List Char} (hrest : Divides rest)
include hrest

/-- A lexeme is read in the same way in front of what divides. -/
theorem Lexeme.read_append (c : Char) (cs : List Char) :
    Stays cs.length (Lexeme.read c cs) (Lexeme.read c (cs ++ rest)) := by
  have single : ∀ lexeme : Lexeme,
      Stays cs.length (ε := Cause) (.ok (lexeme, 0)) (.ok (lexeme, 0)) :=
    fun lexeme => stays_ok lexeme (Nat.zero_le _)
  unfold Lexeme.read
  refine .ite (single _) (.ite (single _) (.ite (single _) (.ite (single _) (.ite (single _)
    (.ite ?quoted (.ite ?numeral (.ite ?word ?symbol)))))))
  case quoted =>
    intro lexeme more h
    split at h
    · next s count hread =>
        cases h
        obtain ⟨happend, hcount⟩ := readQuoted_append (hrest.head?_ne (by decide)) hread
        rw [happend]
        exact ⟨rfl, hcount⟩
    · cases h
  case numeral =>
    intro lexeme more h
    split at h
    · next v numeral hscan =>
        cases h
        obtain ⟨happend, hlength⟩ := scanNumeral_cons_append hscan hrest.endsNumeral
        rw [happend]
        exact ⟨rfl, hlength⟩
    · cases h
  case word =>
    rw [takeWhile_append_of_head hrest.endsWord]
    exact stays_ok _ (List.takeWhile_prefix isWordPart).length_le
  case symbol =>
    intro lexeme more h
    -- a symbol of one character does not become one of two
    split at h
    case h_7 hle hne =>
      cases h
      have hle := append_ne_cons_of_head hle (hrest.head?_ne (d := '=') (by decide))
      have hne := append_ne_cons_of_head hne (hrest.head?_ne (d := '>') (by decide))
      refine ⟨?_, Nat.zero_le _⟩
      split <;> simp_all
    case h_8 hge =>
      cases h
      have hge := append_ne_cons_of_head hge (hrest.head?_ne (d := '=') (by decide))
      refine ⟨?_, Nat.zero_le _⟩
      split <;> simp_all
    case h_9 hstar =>
      cases h
      have hstar := append_ne_cons_of_head hstar (hrest.head?_ne (d := '*') (by decide))
      refine ⟨?_, Nat.zero_le _⟩
      split <;> simp_all
    case h_10 => cases h
    all_goals
      cases h
      exact ⟨rfl, by simp⟩

end

/-! ### The scanner -/

/-- A token that stands some bytes further on. -/
def Token.moved (n : Nat) (t : Token) : Token := { t with offset := n + t.offset }

theorem Token.scan_unread {c : Char} {cs : List Char} {cause : Cause}
    (hc : isBlank c = false) (h : Lexeme.read c cs = .error cause) (offset : Nat) :
    Token.scan offset (c :: cs) = .error (.placed cause offset) :=
  scanWith_unread hc h offset

/-- Behind a lexeme that is read the scan goes on, and its token comes first. -/
theorem Token.scan_read {c : Char} {cs : List Char} {lexeme : Lexeme} {more : Nat}
    (hc : isBlank c = false) (h : Lexeme.read c cs = .ok (lexeme, more)) (offset : Nat) :
    Token.scan offset (c :: cs) =
      (Token.scan (offset + byteLength (c :: cs.take more)) (cs.drop more)).map
        (⟨lexeme, String.ofList (c :: cs.take more), offset⟩ :: ·) :=
  scanWith_read hc h offset

/-- A text that is moved has the same tokens, or the same fault, moved as far. -/
theorem Token.scan_add (n offset : Nat) (cs : List Char) : Token.scan (n + offset) cs =
    scannedBehind Token.moved [] n (Token.scan offset cs) :=
  scanWith_add (fun _ _ _ _ => rfl) n offset cs

section

variable {cs rest : List Char} {offset : Nat} {tokens : List Token}

/-- A text is scanned as it is alone in front of what divides, which is scanned from its end on. -/
theorem Token.scan_append (hrest : Divides rest) (h : Token.scan offset cs = .ok tokens) :
    Token.scan offset (cs ++ rest) =
      (Token.scan (offset + byteLength cs) rest).map (tokens ++ ·) :=
  scanWith_append (Lexeme.read_append hrest) h

/-- **A text yields what it does alone** in front of what divides. -/
theorem yields_append {said : List (Lexeme × String)} (hrest : Divides rest)
    (h : Token.scan offset cs = .ok tokens) (hsaid : Yields rest said) :
    Yields (cs ++ rest) (tokens.map Token.content ++ said) :=
  ScansAs.append Token.moved (fun _ _ _ _ => rfl) (fun _ _ => rfl) (Lexeme.read_append hrest) h
    hsaid

end

/-! ## Texts in parentheses -/

section

variable {rest : List Char} {said : List (Lexeme × String)}

/-- A keyword in front of a blank says itself. -/
theorem Yields.keyword (k : Keyword) (h : Yields (' ' :: rest) said) :
    Yields (k.word.toList ++ ' ' :: rest) ((.word k.word, k.word) :: said) := by
  cases k <;> exact h.cons _ rfl rfl

end

/-- How a connective is written between two texts in parentheses. -/
def Connective.text : Connective → String
  | or => " OR "
  | and => " AND "

theorem Connective.toList_text (k : Connective) :
    k.text.toList = ' ' :: (k.keyword.word.toList ++ [' ']) := by
  cases k <;> rfl

/-- A text **stands free** as contents when it yields them in front of anything. -/
def StandsFree (s : String) (said : List (Lexeme × String)) : Prop :=
  ∀ (rest : List Char) (later : List (Lexeme × String)), Yields rest later →
    Yields (s.toList ++ rest) (said ++ later)

/-- Contents **state** a condition when tokens that say them are a negation that writes it, nested
some levels deep. -/
def States (said : List (Lexeme × String)) (c : Condition) (levels : Nat) : Prop :=
  ∀ tokens : List Token, tokens.map Token.content = said →
    ∃ a : Tree, Derives .negation tokens a ∧ a.ast = c ∧ a.nesting = levels

/-- A text **encloses** a condition when it stands free as what states the condition. -/
def Encloses (s : String) (c : Condition) (levels : Nat) : Prop :=
  ∃ said : List (Lexeme × String), StandsFree s said ∧ States said c levels

/-- The contents of some tokens in parentheses. -/
def enclosedContents (tokens : List Token) : List (Lexeme × String) :=
  (.opening, "(") :: (tokens.map Token.content ++ [(.closing, ")")])

/-- What stands free may come after a blank, with nothing after it. -/
theorem StandsFree.afterBlank {s : String} {said : List (Lexeme × String)}
    (h : StandsFree s said) : Yields (' ' :: s.toList) said := by
  have hnil := h [] [] ScansAs.nil
  rw [List.append_nil, List.append_nil] at hnil
  exact hnil.blank rfl

/-- A text in parentheses stands free. -/
theorem standsFree_enclose {f : String} {tokens : List Token}
    (htokens : Token.ofText f.toList = .ok tokens) :
    StandsFree (enclose f) (enclosedContents tokens) := by
  intro rest later h
  have hclosing : Yields (')' :: rest) ((.closing, ")") :: later) := h.cons [] rfl rfl
  -- the text inside is in front of the closing parenthesis, whatever comes after that
  have hinside := yields_append (divides_cons (by decide) (by decide)) htokens hclosing
  have htext : (enclose f).toList ++ rest = '(' :: (f.toList ++ ')' :: rest) := by
    simp only [enclose, String.toList_append, List.append_assoc]
    rfl
  rw [htext, enclosedContents, List.cons_append, List.append_assoc]
  exact hinside.cons [] rfl rfl

/-- A disjunction in parentheses states its condition, one level deeper. -/
theorem states_enclosedContents {tokens : List Token} {a : Tree}
    (ha : Derives (.chain .or) tokens a) :
    States (enclosedContents tokens) a.ast (a.nesting + 1) := by
  intro us hus
  obtain ⟨o, left, rfl, ho, hleft⟩ := List.map_eq_cons_iff.mp hus
  obtain ⟨ts, left, rfl, hts, hleft⟩ := List.map_eq_append_iff.mp hleft
  obtain ⟨t, rfl, ht⟩ := List.map_eq_singleton_iff.mp hleft
  have hopening : o.lexeme = .opening := (Prod.mk.inj ho).1
  obtain ⟨b, hb, hast, hnesting⟩ := portable_of_derives ha ts hts
  have hparens : Derives .operand (o :: (ts ++ [t])) (.parens b) :=
    .parens hopening hb (Prod.mk.inj ht).1
  refine ⟨.parens b, .asserted (.plain hparens) ?_, hast, congrArg (· + 1) hnesting⟩
  -- a parenthesis is no keyword
  intro u hu
  obtain rfl : o = u := Option.some.inj hu
  intro hnot
  rw [Token.keyword?, hopening] at hnot
  cases hnot

/-- **A text in parentheses encloses its condition**, one level deeper. -/
theorem encloses_enclose {f : String} {tokens : List Token} {a : Tree}
    (htokens : Token.ofText f.toList = .ok tokens) (ha : Derives (.chain .or) tokens a) :
    Encloses (enclose f) a.ast (a.nesting + 1) :=
  ⟨enclosedContents tokens, standsFree_enclose htokens, states_enclosedContents ha⟩

/-- Two negations with a connective between them are a disjunction. -/
theorem exists_derives_pair (k : Connective) {us vs : List Token} {t : Token} {a b : Tree}
    (ha : Derives .negation us a) (ht : t.keyword? = some k.keyword) (hb : Derives .negation vs b) :
    ∃ e : Tree, Derives (.chain .or) (us ++ t :: vs) e ∧ e.ast = k.join a.ast b.ast ∧
      e.nesting = max a.nesting b.nesting := by
  have single : ∀ {ts : List Token} {a : Tree}, Derives .negation ts a →
      Derives (.chain .and) ts (.chain .and a []) := fun h => .chain (.last h)
  cases k with
  | and =>
      refine ⟨.chain .or (.chain .and a [b]) [],
        .chain (.last (.chain (.more ha ht (.last hb)))), ?_, ?_⟩
      · simp only [Tree.ast, Tree.astAll, balance, pairUp]
      · simp only [Tree.nesting, Tree.nestingAll, Nat.max_zero]
  | or =>
      refine ⟨.chain .or (.chain .and a []) [.chain .and b []],
        .chain (.more (single ha) ht (.last (single hb))), ?_, ?_⟩
      · simp only [Tree.ast, Tree.astAll, balance, pairUp]
      · simp only [Tree.nesting, Tree.nestingAll, Nat.max_zero]

/-- A text that yields what says a condition is read as the condition. -/
theorem ofText_of_yields {text : List Char} {said : List (Lexeme × String)} {c : Condition}
    (h : Yields text said) (hsaid : ∀ tokens : List Token, tokens.map Token.content = said →
      ∃ a : Tree, Derives (.chain .or) tokens a ∧ a.ast = c ∧ a.nesting ≤ nestingLimit) :
    ofText text = .ok c := by
  obtain ⟨tokens, hscan, hcontent⟩ := h 0
  obtain ⟨a, ha, rfl, hnesting⟩ := hsaid tokens hcontent
  rw [ofText, Token.ofText, Token.scan, hscan]
  show ofTokens tokens _ = _
  rw [ofTokens_of_derives ha hnesting]

section

variable {f g : String} {p q : Condition} {m n : Nat}

/-- Two enclosed conditions with a connective between them are read as they are joined. -/
theorem Encloses.ofText_join (k : Connective) (hf : Encloses f p m) (hg : Encloses g q n)
    (hm : m ≤ nestingLimit) (hn : n ≤ nestingLimit) :
    ofText (f ++ k.text ++ g).toList = .ok (k.join p q) := by
  obtain ⟨said, hfree, hstates⟩ := hf
  obtain ⟨said', hfree', hstates'⟩ := hg
  have hall := hfree _ _ ((hfree'.afterBlank.keyword k.keyword).blank (c := ' ') rfl)
  have htext : (f ++ k.text ++ g).toList =
      f.toList ++ ' ' :: (k.keyword.word.toList ++ ' ' :: g.toList) := by
    simp only [String.toList_append, Connective.toList_text, List.append_assoc, List.cons_append,
      List.nil_append]
  rw [htext]
  refine ofText_of_yields hall fun tokens htokens => ?_
  obtain ⟨us, left, rfl, hus, hleft⟩ := List.map_eq_append_iff.mp htokens
  obtain ⟨t, vs, rfl, ht, hvs⟩ := List.map_eq_cons_iff.mp hleft
  obtain ⟨a, ha, rfl, rfl⟩ := hstates us hus
  obtain ⟨b, hb, rfl, rfl⟩ := hstates' vs hvs
  obtain ⟨e, he, hast, hnesting⟩ :=
    exists_derives_pair k ha (keyword?_of_lexeme (Prod.mk.inj ht).1) hb
  exact ⟨e, he, hast, hnesting ▸ Nat.max_le.mpr ⟨hm, hn⟩⟩

/-- An enclosed condition after `NOT` is read as its negation. -/
theorem Encloses.ofText_not (hf : Encloses f p m) (hm : m + 1 ≤ nestingLimit) :
    ofText ("NOT " ++ f).toList = .ok (.not p) := by
  obtain ⟨said, hfree, hstates⟩ := hf
  have htext : ("NOT " ++ f).toList = Keyword.not.word.toList ++ ' ' :: f.toList := by
    rw [String.toList_append]
    rfl
  rw [htext]
  refine ofText_of_yields (hfree.afterBlank.keyword .not) fun tokens htokens => ?_
  obtain ⟨t, us, rfl, ht, hus⟩ := List.map_eq_cons_iff.mp htokens
  obtain ⟨a, ha, rfl, rfl⟩ := hstates us hus
  have hnot : Derives .negation (t :: us) (.not a) :=
    .not (keyword?_of_lexeme (Prod.mk.inj ht).1) ha
  refine ⟨.chain .or (.chain .and (.not a) []) [], .chain (.last (.chain (.last hnot))), ?_, ?_⟩
  · simp only [Tree.ast, Tree.astAll, balance]
  · simpa only [Tree.nesting, Tree.nestingAll, Nat.max_zero] using hm

end

end Tabular.Condition
