import Mathlib.Tactic.SplitIfs
import Tabular.Proofs.Condition.Balance
import Tabular.Proofs.Condition.Compile
import Tabular.Proofs.Condition.Embedding
import Tabular.Proofs.Text.Place

set_option autoImplicit false

/-! # Tokens tile their text

The tokens of a text stand in it one after the other, each at its offset, with nothing but blanks
before, between and after them (`Tiles`). What a token says is what its own characters say
(`Token.ReadsBack`). So the blanks may be exchanged for others: the texts of the tokens with one
space between each two of them scan as tokens that say the same (`yields_intercalate`).

The places at which a reader of the tokens can be are their offsets and, behind the last of them,
the end of the text (`places`), which counts as an empty token.
-/

namespace Tabular.Condition

/-! ## Tokens alone -/

/-- A token **reads back** when its text, which does not start with a blank, is read by itself as
what the token says. -/
def Token.ReadsBack (t : Token) : Prop :=
  ∃ (c : Char) (more : List Char), t.text.toList = c :: more ∧ isBlank c = false ∧
    Lexeme.read c more = .ok (t.lexeme, more.length)

/-- What is in quotes is read off the characters that are taken for it. -/
theorem readQuoted_take {cs s : List Char} {count : Nat} (h : readQuoted cs = some (s, count)) :
    readQuoted (cs.take count) = some (s, count) := by
  fun_induction readQuoted cs generalizing s count with
  | case1 cs ih =>
      obtain ⟨⟨s', count'⟩, hread, heq⟩ := Option.map_eq_some_iff.mp h
      cases heq
      rw [List.take_succ_cons, List.take_succ_cons, readQuoted, ih hread]
      rfl
  | case2 cs hquote =>
      cases h
      rfl
  | case3 c cs hquote hne ih =>
      obtain ⟨⟨s', count'⟩, hread, heq⟩ := Option.map_eq_some_iff.mp h
      cases heq
      rw [List.take_succ_cons, readQuoted, ih hread]
      · rfl
      · intro left heq
        exact absurd heq hne
      · exact hne
  | case4 => cases h

/-- **A lexeme is read off the characters that are taken for it**, whatever comes after them. -/
theorem Lexeme.read_take {c : Char} {cs : List Char} {lexeme : Lexeme} {more : Nat}
    (h : Lexeme.read c cs = .ok (lexeme, more)) :
    Lexeme.read c (cs.take more) = .ok (lexeme, more) := by
  unfold Lexeme.read at h ⊢
  split_ifs at h ⊢ with hopen hclose hopening hclosing hcomma hquote hnumeral hword
  case pos | pos | pos | pos | pos => exact h
  case pos =>
    -- a quoted text
    split at h
    · next s count hread =>
        cases h
        rw [readQuoted_take hread]
    · cases h
  case pos =>
    -- a numeral
    split at h
    · next v numeral hscan =>
        cases h
        rw [scanNumeral_cons_alone hscan]
    · cases h
  case pos =>
    -- a word
    cases h
    rw [← List.prefix_iff_eq_take.mp (List.takeWhile_prefix isWordPart), List.takeWhile_idem]
  case neg =>
    -- a symbol
    split at h <;> cases h <;> rfl

section

variable {t : Token} (h : t.ReadsBack)
include h

theorem Token.ReadsBack.text_ne : t.text ≠ "" := by
  obtain ⟨c, more, htext, -⟩ := h
  intro hempty
  rw [hempty] at htext
  cases htext

/-- A token that reads back takes up room. -/
theorem Token.ReadsBack.byteLength_pos : 0 < byteLength t.text.toList := by
  obtain ⟨c, more, htext, -⟩ := h
  rw [htext, byteLength_cons]
  have hpos := Char.utf8Size_pos c
  omega

/-- A token that reads back does not start with a blank. -/
theorem Token.ReadsBack.isBlank_head? (rest : List Char) :
    ∀ c ∈ (t.text.toList ++ rest).head?, isBlank c = false := by
  obtain ⟨c, more, htext, hc, -⟩ := h
  rw [htext]
  intro d hd
  obtain rfl := Option.some.inj hd
  exact hc

/-- A token that reads back is scanned in front of what divides. -/
theorem Token.ReadsBack.yields {rest : List Char} {said : List (Lexeme × String)}
    (hrest : Divides rest) (hsaid : Yields rest said) :
    Yields (t.text.toList ++ rest) (t.content :: said) := by
  obtain ⟨c, more, htext, hc, hread⟩ := h
  obtain ⟨happend, -⟩ := Lexeme.read_append hrest c more _ _ hread
  have hcontent : ∀ offset : Nat,
      Token.content ⟨t.lexeme, String.ofList (c :: more), offset⟩ = t.content := by
    intro offset
    rw [← htext, String.ofList_toList]
    rfl
  rw [htext, List.cons_append]
  exact hsaid.cons more hc happend hcontent

end

/-! ## Tokens in a text -/

/-- Tokens **tile** a text that starts at some number of bytes: the text consists of their texts,
each at the offset of its token, with nothing but blanks before, between and after them. -/
inductive Tiles : Nat → List Char → List Token → Prop where
  /-- No tokens are left, and nothing but blanks. -/
  | gap {start : Nat} {gap : List Char} (hgap : ∀ c ∈ gap, isBlank c = true) : Tiles start gap []
  /-- A token is next, after some blanks. -/
  | token {start : Nat} {gap rest : List Char} {t : Token} {ts : List Token}
      (hgap : ∀ c ∈ gap, isBlank c = true) (hoffset : t.offset = start + byteLength gap)
      (hreads : t.ReadsBack) (hrest : Tiles (t.offset + byteLength t.text.toList) rest ts) :
      Tiles start (gap ++ (t.text.toList ++ rest)) (t :: ts)

/-- The **places** of a reader of tokens: their offsets and the end of the text. -/
def places (textEnd : Nat) (tokens : List Token) : List Nat :=
  tokens.map Token.offset ++ [textEnd]

theorem places_cons (textEnd : Nat) (t : Token) (ts : List Token) :
    places textEnd (t :: ts) = t.offset :: places textEnd ts := rfl

section

variable {start : Nat} {cs : List Char} {ts : List Token}

/-- One more blank in front makes the first gap longer. -/
theorem Tiles.blank {c : Char} (hc : isBlank c = true) (h : Tiles (start + c.utf8Size) cs ts) :
    Tiles start (c :: cs) ts := by
  cases h with
  | gap hgap => exact .gap (List.forall_mem_cons.mpr ⟨hc, hgap⟩)
  | @token _ gap _ t _ hgap hoffset hreads hrest =>
      have hlonger : ∀ d ∈ c :: gap, isBlank d = true := List.forall_mem_cons.mpr ⟨hc, hgap⟩
      refine Tiles.token hlonger ?_ hreads hrest
      rw [hoffset, byteLength_cons, Nat.add_assoc]

/-- **The tokens of a text tile it.** -/
theorem tiles_of_scan (h : Token.scan start cs = .ok ts) : Tiles start cs ts := by
  rw [Token.scan] at h
  fun_induction scanWith Lexeme.read (fun l lexed o => Token.mk l (String.ofList lexed) o) start cs
    generalizing ts with
  | case1 =>
      cases h
      exact .gap (List.forall_mem_nil _)
  | case2 start c cs hc ih => exact (ih h).blank hc
  | case3 => cases h
  | case4 => cases h
  | case5 start c cs hc lexeme more hread lexed scanned hscan =>
      rename_i ih
      cases h
      obtain ⟨-, hmore⟩ := Lexeme.read_append divides_nil _ _ _ _ hread
      have hreads : Token.ReadsBack ⟨lexeme, String.ofList lexed, start⟩ := by
        refine ⟨c, cs.take more, String.toList_ofList, Bool.eq_false_iff.mpr hc, ?_⟩
        rw [List.length_take_of_le hmore]
        exact Lexeme.read_take hread
      have hnone : ∀ d ∈ [], isBlank d = true := List.forall_mem_nil _
      have hlexed : (String.ofList lexed).toList = lexed := String.toList_ofList
      have htoken := Tiles.token hnone rfl hreads (hlexed.symm ▸ ih hscan)
      rwa [hlexed, List.nil_append, List.cons_append, List.take_append_drop] at htoken

/-- Every place of a reader of the tokens is a place in the text. -/
theorem Tiles.placeIn (h : Tiles start cs ts) :
    ∀ o ∈ places (start + byteLength cs) ts, PlaceIn start cs o := by
  induction h with
  | gap hgap =>
      intro o ho
      obtain rfl := List.mem_singleton.mp ho
      exact placeIn_end ..
  | @token start gap rest t ts hgap hoffset hreads hrest ih =>
      intro o ho
      rw [places_cons] at ho
      refine PlaceIn.append ?_
      rw [← hoffset]
      rcases List.mem_cons.mp ho with rfl | ho
      · exact placeIn_start (hreads.isBlank_head? rest)
      · refine (ih o ?_).append
        rwa [byteLength_append, byteLength_append, ← Nat.add_assoc, ← hoffset, ← Nat.add_assoc] at ho

/-- The places of the tokens and of the end of the text follow one another. -/
theorem Tiles.pairwise_places (h : Tiles start cs ts) :
    (places (start + byteLength cs) ts).Pairwise (· < ·) := by
  induction h with
  | gap hgap => exact List.pairwise_singleton ..
  | @token start gap rest t ts hgap hoffset hreads hrest ih =>
      rw [byteLength_append, byteLength_append, ← Nat.add_assoc, ← hoffset, ← Nat.add_assoc,
        places_cons]
      refine List.pairwise_cons.mpr ⟨fun o ho => ?_, ih⟩
      have hle := (hrest.placeIn o ho).ge
      have hpos := hreads.byteLength_pos
      omega

/-- The text of a token is the part of the text at its offset. -/
theorem Tiles.exists_eq_append (h : Tiles start cs ts) : ∀ t ∈ ts, ∃ front back : List Char,
    cs = front ++ (t.text.toList ++ back) ∧ t.offset = start + byteLength front := by
  induction h with
  | gap hgap => exact fun t ht => nomatch ht
  | @token start gap rest u ts hgap hoffset hreads hrest ih =>
      intro t ht
      rcases List.mem_cons.mp ht with rfl | ht
      · exact ⟨gap, rest, rfl, hoffset⟩
      · obtain ⟨front, back, rfl, hplace⟩ := ih t ht
        refine ⟨gap ++ (u.text.toList ++ front), back, ?_, ?_⟩
        · simp only [List.append_assoc]
        · rw [hplace, hoffset, byteLength_append, byteLength_append]
          omega

/-- A token ends before the next one starts. -/
theorem Tiles.pairwise_apart (h : Tiles start cs ts) :
    ts.Pairwise fun t u => t.offset + byteLength t.text.toList ≤ u.offset := by
  induction h with
  | gap hgap => exact .nil
  | @token start gap rest t ts hgap hoffset hreads hrest ih =>
      refine .cons (fun u hu => ?_) ih
      obtain ⟨front, back, -, hplace⟩ := hrest.exists_eq_append u hu
      rw [hplace]
      exact Nat.le_add_right ..

theorem Tiles.readsBack (h : Tiles start cs ts) : ∀ t ∈ ts, t.ReadsBack := by
  induction h with
  | gap hgap => exact fun t ht => nomatch ht
  | token hgap hoffset hreads hrest ih => exact List.forall_mem_cons.mpr ⟨hreads, ih⟩

end

/-! ## Texts of tokens with spaces between them -/

/-- **The texts of tokens with spaces between them scan as tokens that say the same.** -/
theorem yields_intercalate {ts : List Token} (h : ∀ t ∈ ts, t.ReadsBack) {rest : List Char}
    {said : List (Lexeme × String)} (hrest : Divides rest) (hsaid : Yields rest said) :
    Yields ((" ".intercalate (ts.map Token.text)).toList ++ rest) (ts.map Token.content ++ said) := by
  induction ts with
  | nil => exact hsaid
  | cons t us ih =>
      obtain ⟨ht, hus⟩ := List.forall_mem_cons.mp h
      cases us with
      | nil =>
          rw [List.map_singleton, String.intercalate_singleton]
          exact ht.yields hrest hsaid
      | cons u us =>
          have hlater := (ih hus).blank (c := ' ') rfl
          have htext : (" ".intercalate ((t :: u :: us).map Token.text)).toList ++ rest =
              t.text.toList ++
                ' ' :: ((" ".intercalate ((u :: us).map Token.text)).toList ++ rest) := by
            simp only [List.map_cons, String.intercalate_cons_cons, String.toList_append,
              List.append_assoc]
            rfl
          rw [htext]
          exact ht.yields (divides_of_isBlank rfl) hlater

/-! ## Names in braces -/

/-- Tokens **name** a column when they are its name in braces. -/
def Names (ts : List Token) (name : String) : Prop :=
  ∃ (o c : Token) (parts : List Token), ts = o :: (parts ++ [c]) ∧ o.lexeme = .openBrace ∧
    (∀ p ∈ parts, p.isBrace = false) ∧ nameOf parts = name ∧ name ≠ "" ∧ c.lexeme = .closeBrace

mutual

/-- A phrase that starts with a brace and writes a column is the name of the column in braces. -/
theorem names_of_derives : ∀ {cat : Category} {ts : List Token} {a : Tree}, Derives cat ts a →
    ∀ {name : String}, (∀ t ∈ ts.head?, t.lexeme = .openBrace) → a.ast = .column name →
      Names ts name
  | _, _, _, .number ht, _, hbrace, _ => nomatch ht.symm.trans (hbrace _ rfl)
  | _, _, _, .quoted ht, _, hbrace, _ => nomatch ht.symm.trans (hbrace _ rfl)
  | _, _, _, .word ht, _, hbrace, _ => nomatch ht.symm.trans (hbrace _ rfl)
  | _, _, _, .name ho hparts hname hc, _, _, hast => by
      rw [Tree.ast] at hast
      cases hast
      exact ⟨_, _, _, rfl, ho, hparts, rfl, hname, hc⟩
  | _, _, _, .parens ho _ _, _, hbrace, _ => nomatch ho.symm.trans (hbrace _ rfl)
  | _, _, _, .plain ha, _, hbrace, hast => names_of_derives ha hbrace hast
  | _, _, _, .ask (q := q) _ _ _, _, _, hast => by cases q <;> cases hast
  | _, _, _, .between _ _ _ _ _, _, _, hast => nomatch hast
  | _, _, _, .not _ _, _, _, hast => nomatch hast
  | _, _, _, .asserted ha _, _, hbrace, hast => names_of_derives ha hbrace hast
  | _, _, _, .chain h, _, hbrace, hast => names_of_derivesChain h hbrace hast

/-- The same of a chain, which has one operand only. -/
theorem names_of_derivesChain : ∀ {c : Connective} {ts : List Token} {a : Tree} {as : List Tree},
    DerivesChain c ts a as → ∀ {name : String}, (∀ t ∈ ts.head?, t.lexeme = .openBrace) →
      balance c.join a.ast (Tree.astAll as) = .column name → Names ts name
  | _, _, _, _, .last ha, _, hbrace, hast => by
      rw [Tree.astAll, balance] at hast
      exact names_of_derives ha hbrace hast
  | c, _, _, _, .more _ _ _, _, _, hast => by
      obtain ⟨p, q, hjoin⟩ := exists_join_eq_balance c.join _ _ _
      rw [Tree.astAll, hjoin] at hast
      cases c <;> cases hast

end

/-- An operand that does not start with `NOT` is a disjunction of itself alone. -/
theorem exists_derives_alone {ts : List Token} {a : Tree} (ha : Derives .operand ts a)
    (hts : ∀ t ∈ ts.head?, t.keyword? ≠ some .not) :
    ∃ b : Tree, Derives (.chain .or) ts b ∧ b.ast = a.ast ∧ b.nesting = a.nesting := by
  refine ⟨.chain .or (.chain .and a []) [], .chain (.last (.chain (.last (.asserted (.plain ha) hts)))),
    ?_, ?_⟩
  · simp only [Tree.ast, Tree.astAll, balance]
  · simp only [Tree.nesting, Tree.nestingAll, Nat.max_zero]

/-- What names a column is read as the column. -/
theorem Names.exists_derives {ts : List Token} {name : String} (h : Names ts name) :
    ∃ a : Tree, Derives (.chain .or) ts a ∧ a.ast = .column name ∧ a.nesting ≤ nestingLimit := by
  obtain ⟨o, c, parts, rfl, ho, hparts, rfl, hname, hc⟩ := h
  have hnot : ∀ t ∈ (o :: (parts ++ [c])).head?, t.keyword? ≠ some .not := by
    intro t ht
    obtain rfl := Option.some.inj ht
    rw [Token.keyword?, ho]
    decide
  obtain ⟨a, ha, hast, hnesting⟩ := exists_derives_alone (.name ho hparts hname hc) hnot
  exact ⟨a, ha, hast, hnesting ▸ Nat.zero_le _⟩

/-- Tokens that say what names a column name it as well. -/
theorem Names.congr {ts us : List Token} {name : String} (h : Names ts name)
    (hus : us.map Token.content = ts.map Token.content) : Names us name := by
  obtain ⟨o, c, parts, rfl, ho, hparts, rfl, hname, hc⟩ := h
  obtain ⟨o', left, rfl, ho', hleft⟩ := List.map_eq_cons_iff.mp hus
  rw [List.map_append] at hleft
  obtain ⟨parts', left, rfl, hparts', hleft⟩ := List.map_eq_append_iff.mp hleft
  obtain ⟨c', rfl, hc'⟩ := List.map_eq_singleton_iff.mp hleft
  exact ⟨o', c', parts', rfl, (Token.lexeme_congr ho').trans ho, noBrace_congr hparts' hparts,
    nameOf_congr hparts', hname, (Token.lexeme_congr hc').trans hc⟩

section

variable {parts : List Token} (hparts : ∀ p ∈ parts, p.part = p.text)
include hparts

/-- What is joined to a name comes after a space. -/
theorem foldl_joinName {name : String} (hname : name ≠ "") :
    parts.foldl (fun name t => joinName name t.part) name =
      " ".intercalate (name :: parts.map Token.text) := by
  induction parts generalizing name with
  | nil => rw [List.foldl_nil, List.map_nil, String.intercalate_singleton]
  | cons p parts ih =>
      obtain ⟨hp, hparts⟩ := List.forall_mem_cons.mp hparts
      have hlonger : name ++ " " ++ p.text ≠ "" := by
        rw [Ne, String.append_eq_empty_iff, String.append_eq_empty_iff]
        exact fun h => hname h.1.1
      rw [List.foldl_cons, joinName, if_neg hname, hp, ih hparts hlonger, List.map_cons,
        String.intercalate_cons_append, String.intercalate_cons_cons]

/-- A name whose parts are not empty consists of the parts with a space between each two. -/
theorem nameOf_eq_intercalate (hne : ∀ p ∈ parts, p.text ≠ "") :
    nameOf parts = " ".intercalate (parts.map Token.text) := by
  cases parts with
  | nil => rfl
  | cons p parts =>
      obtain ⟨hp, hparts⟩ := List.forall_mem_cons.mp hparts
      rw [nameOf, List.foldl_cons, joinName, if_pos rfl, hp,
        foldl_joinName hparts (hne p List.mem_cons_self), List.map_cons]

end

/-- Whether a token is a quoted text. -/
def Token.isQuoted (t : Token) : Bool :=
  match t.lexeme with
  | .quoted _ => true
  | _ => false

/-- What a token that is not quoted adds to a name are its characters. -/
theorem Token.part_eq_text {t : Token} (h : t.isQuoted = false) : t.part = t.text := by
  unfold Token.part
  split
  · next s hs =>
      rw [Token.isQuoted, hs] at h
      cases h
  · rfl

/-- A text in braces. -/
def braced (name : List Char) : List Char := '\x7b' :: (name ++ ['\x7d'])

/-- A name that consists of texts of tokens is read again when it stands in braces itself. -/
theorem Names.ofText_braced {ts : List Token} {name : String} (h : Names ts name)
    (hreads : ∀ t ∈ ts, t.ReadsBack) (hquoted : ∀ t ∈ ts, t.isQuoted = false) :
    ofText (braced name.toList) = .ok (.column name) := by
  obtain ⟨o, c, parts, rfl, -, hparts, rfl, hname, -⟩ := h
  have hmem : ∀ p ∈ parts, p ∈ o :: (parts ++ [c]) := fun p hp =>
    List.mem_cons_of_mem o (List.mem_append_left [c] hp)
  have hjoined := nameOf_eq_intercalate (fun p hp => Token.part_eq_text (hquoted p (hmem p hp)))
    fun p hp => (hreads p (hmem p hp)).text_ne
  -- the same parts between the braces of the new text
  have hnames : Names (⟨.openBrace, "\x7b", 0⟩ :: (parts ++ [⟨.closeBrace, "\x7d", 0⟩]))
      (nameOf parts) := ⟨_, _, parts, rfl, rfl, hparts, rfl, hname, rfl⟩
  have hclose : Yields ['\x7d'] [(.closeBrace, "\x7d")] := ScansAs.nil.cons [] rfl rfl
  have hinside := yields_intercalate (fun p hp => hreads p (hmem p hp))
    (divides_cons (by decide) (by decide)) hclose
  rw [← hjoined] at hinside
  have hall : Yields (braced (nameOf parts).toList)
      ((⟨.openBrace, "\x7b", 0⟩ :: (parts ++ [⟨.closeBrace, "\x7d", 0⟩])).map Token.content) := by
    rw [List.map_cons, List.map_append]
    exact hinside.cons [] rfl rfl
  exact ofText_of_yields hall fun us hus => (hnames.congr hus).exists_derives

/-- The first token of a text in braces is the opening brace. -/
theorem head?_of_ofText_braced {name : List Char} {tokens : List Token}
    (h : Token.ofText (braced name) = .ok tokens) : ∀ t ∈ tokens.head?, t.lexeme = .openBrace := by
  have hread : Lexeme.read '\x7b' (name ++ ['\x7d']) = .ok (.openBrace, 0) := rfl
  rw [Token.ofText, braced, Token.scan_read (by decide) hread] at h
  generalize Token.scan _ _ = later at h
  cases later with
  | error fault => cases h
  | ok later =>
      cases h
      intro t ht
      obtain rfl := Option.some.inj ht
      rfl

/-- **The tokens of a condition tile its text**, in the order of the places at which they start, with
the end of the text, where its readers find no token any more, as the last place. The texts of the
tokens with spaces between them scan as tokens that say the same, so a name in braces without quoted
texts is read again as itself. -/
theorem tokens_tile :
    (∀ (text : List Char) (tokens : List Token), Token.ofText text = .ok tokens →
      Tiles 0 text tokens ∧ ofText text = ofTokens tokens (byteLength text) ∧
      (places (byteLength text) tokens).Pairwise (· < ·) ∧
      (∀ t ∈ tokens, t.text ≠ "" ∧ ∃ front back : List Char,
        text = front ++ (t.text.toList ++ back) ∧ t.offset = byteLength front) ∧
      (tokens.Pairwise fun t u => t.offset + byteLength t.text.toList ≤ u.offset) ∧
      ∃ again : List Token,
        Token.ofText (" ".intercalate (tokens.map Token.text)).toList = .ok again ∧
          again.map Token.content = tokens.map Token.content) ∧
    ∀ (inside : List Char) (tokens : List Token) (name : String),
      Token.ofText (braced inside) = .ok tokens →
      (∀ t ∈ tokens, t.isQuoted = false) →
      ofText (braced inside) = .ok (.column name) →
        ofText (braced name.toList) = .ok (.column name) := by
  refine ⟨fun text tokens h => ?_, fun inside tokens name h hquoted hread => ?_⟩
  · have htiles : Tiles 0 text tokens := tiles_of_scan h
    have hplaces := htiles.pairwise_places
    rw [Nat.zero_add] at hplaces
    have hread : ofText text = ofTokens tokens (byteLength text) := by
      rw [ofText, h]
      rfl
    refine ⟨htiles, hread, hplaces, fun t ht => ⟨(htiles.readsBack t ht).text_ne, ?_⟩,
      htiles.pairwise_apart, ?_⟩
    · obtain ⟨front, back, htext, hoffset⟩ := htiles.exists_eq_append t ht
      rw [Nat.zero_add] at hoffset
      exact ⟨front, back, htext, hoffset⟩
    · have hyields := yields_intercalate htiles.readsBack divides_nil ScansAs.nil
      rw [List.append_nil, List.append_nil] at hyields
      exact hyields 0
  · obtain ⟨tokens', htokens, hread⟩ := bind_eq_ok hread
    obtain rfl := Except.ok.inj (h.symm.trans htokens)
    obtain ⟨a, ha, -, hast⟩ := exists_derives_of_ofTokens hread
    have hnames := names_of_derives ha (head?_of_ofText_braced h) hast
    exact hnames.ofText_braced (tiles_of_scan h).readsBack hquoted

/-- A text with blanks and characters of several bytes, and a name of three tokens. -/
def gappedSample : String := "\u00a0a<='é é'  AND\t\x7bb  >= c\x7d "

theorem tokens_tile_gappedSample :
    (∃ tokens again : List Token, Token.ofText gappedSample.toList = .ok tokens ∧
      places (byteLength gappedSample.toList) tokens = [2, 3, 5, 14, 18, 19, 22, 25, 26, 28] ∧
      Tiles 0 gappedSample.toList tokens ∧
      " ".intercalate (tokens.map Token.text) = "a <= 'é é' AND \x7b b >= c \x7d" ∧
      Token.ofText (" ".intercalate (tokens.map Token.text)).toList = .ok again ∧
      again.map Token.content = tokens.map Token.content) ∧
    ofText (braced "b >= c".toList) = .ok (.column "b >= c") := by
  constructor
  · have hcomputed : (Token.ofText gappedSample.toList).toOption.map
        (fun tokens => (places (byteLength gappedSample.toList) tokens, tokens.map Token.text)) =
        some ([2, 3, 5, 14, 18, 19, 22, 25, 26, 28],
          ["a", "<=", "'é é'", "AND", "\x7b", "b", ">=", "c", "\x7d"]) := by
      decide +kernel
    cases htokens : Token.ofText gappedSample.toList with
    | error fault =>
        rw [htokens] at hcomputed
        cases hcomputed
    | ok tokens =>
        obtain ⟨htiles, -, -, -, -, again, hagain, hsame⟩ := tokens_tile.1 _ tokens htokens
        rw [htokens] at hcomputed
        obtain ⟨hplaces, htexts⟩ := Prod.mk.inj (Option.some.inj hcomputed)
        exact ⟨tokens, again, rfl, hplaces, htiles, by rw [htexts]; decide +kernel, hagain, hsame⟩
  · have hquoted : (Token.ofText (braced "b  >= c".toList)).toOption.map (·.any Token.isQuoted) =
        some false := by
      decide +kernel
    have hname : (match ofText (braced "b  >= c".toList) with
        | .ok (.column name) => some name
        | _ => none) = some "b >= c" := by
      decide +kernel
    split at hname
    · next name hread =>
        obtain rfl := Option.some.inj hname
        cases htokens : Token.ofText (braced "b  >= c".toList) with
        | error fault =>
            rw [htokens] at hquoted
            cases hquoted
        | ok tokens =>
            rw [htokens] at hquoted
            have hnone := List.any_eq_false.mp (Option.some.inj hquoted)
            exact tokens_tile.2 _ tokens _ htokens
              (fun t ht => Bool.eq_false_iff.mpr (hnone t ht)) hread
    · cases hname

end Tabular.Condition
