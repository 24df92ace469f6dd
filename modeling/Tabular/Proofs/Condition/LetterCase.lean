import Tabular.Proofs.Condition.Blaming
import Tabular.Proofs.Text.LetterCase

set_option autoImplicit false

/-! # The case of letters in conditions

Two texts may differ in the case of their ASCII letters wherever these do not stand in quoted texts
(`lowered`). They then have the same tokens up to case, at the same places, or are both at fault for
their characters at one place (`agree_scan`). The scanner goes through both texts in step. Outside of
quoted texts it reads the same lexeme, up to case, as in the text written in lower case throughout
(`agree_read_toLower`), and a quoted text is the same in both and ends at the same place
(`readQuoted_congr`).
-/

namespace Tabular.Condition

/-! ## Texts -/

/-- A text with its ASCII letters in lower case, except in quoted texts. A quote that is never closed
starts none. -/
def lowered : List Char → List Char
  | [] => []
  | c :: rest =>
    if c = '\'' then
      match readQuoted rest with
      | some (_, count) => c :: (rest.take count ++ lowered (rest.drop count))
      | none => c :: rest.map Char.toLower
    else c.toLower :: lowered rest
termination_by cs => cs.length
decreasing_by all_goals simp only [List.length_cons, List.length_drop]; omega

theorem lowered_cons {c : Char} (hc : c ≠ '\'') (cs : List Char) :
    lowered (c :: cs) = c.toLower :: lowered cs := by
  rw [lowered, if_neg hc]

theorem lowered_quoted {cs s : List Char} {count : Nat} (h : readQuoted cs = some (s, count)) :
    lowered ('\'' :: cs) = '\'' :: (cs.take count ++ lowered (cs.drop count)) := by
  rw [lowered, if_pos rfl, h]

/-- Where there are no quotes, all letters are written in lower case. -/
theorem lowered_append {front : List Char} (hfront : '\'' ∉ front) (rest : List Char) :
    lowered (front ++ rest) = front.map Char.toLower ++ lowered rest := by
  induction front with
  | nil => rfl
  | cons c front ih =>
      rw [List.mem_cons, not_or] at hfront
      obtain ⟨hc, hfront⟩ := hfront
      rw [List.cons_append, lowered_cons (Ne.symm hc), ih hfront]
      rfl

/-- Quoted texts differ from the rest in their case only. -/
theorem toLower_lowered (cs : List Char) :
    (lowered cs).map Char.toLower = cs.map Char.toLower := by
  fun_induction lowered cs with
  | case1 => rfl
  | case2 rest s count hread ih =>
      rw [List.map_cons, List.map_append, ih, ← List.map_append, List.take_append_drop]
      rfl
  | case3 rest hread =>
      rw [List.map_cons, List.map_map, toLower_comp_toLower]
      rfl
  | case4 c rest hc ih => rw [List.map_cons, ih, toLower_toLower, List.map_cons]

/-- Texts that are the same up to case outside of quoted texts are the same up to case. -/
theorem toLower_congr_lowered {cs ds : List Char} (h : lowered cs = lowered ds) :
    cs.map Char.toLower = ds.map Char.toLower := by
  rw [← toLower_lowered cs, h, toLower_lowered]

/-! ## Quoted texts -/

/-- A quoted text is as long in either case. -/
theorem readQuoted_toLower (cs : List Char) : readQuoted (cs.map Char.toLower) =
    (readQuoted cs).map fun (s, count) => (s.map Char.toLower, count) := by
  have hlower : ∀ {c : Char}, c ≠ '\'' → c.toLower ≠ '\'' :=
    fun hc => mt (toLower_eq_iff (by decide)).mp hc
  fun_induction readQuoted cs with
  | case1 cs ih =>
      show readQuoted ('\'' :: '\'' :: cs.map Char.toLower) = _
      rw [readQuoted, ih]
      cases readQuoted cs <;> rfl
  | case2 cs hquote =>
      show readQuoted ('\'' :: cs.map Char.toLower) = _
      rw [readQuoted]
      · rfl
      · intro left heq
        cases cs with
        | nil => cases heq
        | cons d cs =>
            have hd : d ≠ '\'' := by
              rintro rfl
              exact hquote cs rfl
            exact hlower hd (List.cons.inj heq).1
  | case3 c cs hquote hne ih =>
      have hc : c ≠ '\'' := hne
      rw [List.map_cons, readQuoted, ih]
      · cases readQuoted cs <;> rfl
      · intro left heq
        exact absurd heq (hlower hc)
      · exact hlower hc
  | case4 => rfl

/-- In texts that are the same up to case outside of quoted texts, the quoted texts are the same. -/
theorem readQuoted_congr {cs ds : List Char} (h : lowered ('\'' :: cs) = lowered ('\'' :: ds)) :
    readQuoted ds = readQuoted cs ∧ ∀ s count, readQuoted cs = some (s, count) →
      lowered (cs.drop count) = lowered (ds.drop count) := by
  have hlower := (List.cons.inj (toLower_congr_lowered h)).2
  have hlength : cs.length = ds.length := by simpa using congrArg List.length hlower
  have hread := readQuoted_toLower ds
  rw [← hlower, readQuoted_toLower cs] at hread
  cases hcs : readQuoted cs with
  | none =>
      rw [hcs] at hread
      exact ⟨Option.map_eq_none_iff.mp hread.symm, nofun⟩
  | some x =>
      obtain ⟨s, count⟩ := x
      rw [hcs] at hread
      obtain ⟨⟨t, count'⟩, hds, heq⟩ := Option.map_eq_some_iff.mp hread.symm
      obtain rfl : count' = count := (Prod.mk.inj heq).2
      -- both end after as many characters, so what is in quotes is the same as it stands
      rw [lowered_quoted hcs, lowered_quoted hds] at h
      have htakes : (cs.take count').length = (ds.take count').length := by
        rw [List.length_take, List.length_take, hlength]
      obtain ⟨htake, hdrop⟩ := List.append_inj (List.cons.inj h).2 htakes
      -- a quoted text is read off its own characters, which are the same
      have hsame := readQuoted_take hcs
      rw [htake, readQuoted_take hds] at hsame
      refine ⟨hds.trans hsame, fun s' n hn => ?_⟩
      cases hn
      exact hdrop

/-! ## Lexemes -/

/-- A lexeme with its word, if it is one, in lower case. -/
def Lexeme.lowered : Lexeme → Lexeme
  | word w => word (asciiLower w)
  | lexeme => lexeme

/-- What does not start with a character that is no letter does not do so in lower case. -/
theorem toLower_ne_cons {d : Char} (hd : d.isAlpha = false) {cs : List Char}
    (h : ∀ tail, cs = d :: tail → False) : ∀ tail, cs.map Char.toLower = d :: tail → False := by
  intro tail heq
  obtain ⟨c, left, rfl, hc, -⟩ := List.map_eq_cons_iff.mp heq
  exact h left (congrArg (· :: left) ((toLower_eq_iff hd).mp hc))

theorem takeWhile_isWordPart_toLower (cs : List Char) :
    (cs.map Char.toLower).takeWhile isWordPart = (cs.takeWhile isWordPart).map Char.toLower := by
  have hpart : isWordPart ∘ Char.toLower = isWordPart := funext isWordPart_toLower
  rw [List.takeWhile_map, hpart]

/-- **What is no quoted text is read in the same way in lower case.** -/
theorem agree_read_toLower {c : Char} (hc : c ≠ '\'') (rest : List Char) :
    Agree (fun _ _ => True) (fun x y => y.1 = x.1.lowered ∧ y.2 = x.2)
      (Lexeme.read c rest) (Lexeme.read c.toLower (rest.map Char.toLower)) := by
  have symbol : ∀ {d : Char}, d.isAlpha = false → (c = d ↔ c.toLower = d) :=
    fun hd => (toLower_eq_iff hd).symm
  unfold Lexeme.read
  refine .ite (symbol (by decide)) (fun _ => ⟨rfl, rfl⟩) fun _ => ?_
  refine .ite (symbol (by decide)) (fun _ => ⟨rfl, rfl⟩) fun _ => ?_
  refine .ite (symbol (by decide)) (fun _ => ⟨rfl, rfl⟩) fun _ => ?_
  refine .ite (symbol (by decide)) (fun _ => ⟨rfl, rfl⟩) fun _ => ?_
  refine .ite (symbol (by decide)) (fun _ => ⟨rfl, rfl⟩) fun _ => ?_
  refine .ite (symbol (by decide)) (fun hquote => absurd hquote hc) fun _ => ?_
  refine .ite ?_ (fun _ => ?numeral) fun _ => .ite ?_ (fun _ => ?word) fun hword => ?symbol
  · rw [isDigit_toLower, Bool.or_eq_true, Bool.or_eq_true, beq_iff_eq, beq_iff_eq,
      symbol (by decide)]
  case numeral =>
    have hscan := agree_scanNumeral (c :: rest)
    rw [List.map_cons] at hscan
    obtain ⟨x, y, hx, hy, hvalue, hlength⟩ | ⟨_, _, hx, hy, -⟩ := hscan.ok_or_error
    · rw [hx, hy]
      exact ⟨congrArg Lexeme.number hvalue.symm, congrArg (· - 1) hlength.symm⟩
    · rw [hx, hy]
      trivial
  · rw [isWordStart_toLower]
  case word =>
    rw [takeWhile_isWordPart_toLower]
    refine ⟨?_, List.length_map _⟩
    rw [Lexeme.lowered, asciiLower, String.toList_ofList]
    rfl
  case symbol =>
    -- nothing but letters has a lower case
    have hletter : c.isAlpha = false := by
      rw [isWordStart, Bool.or_eq_true, not_or] at hword
      exact Bool.eq_false_iff.mpr hword.1
    rw [toLower_eq_self hletter]
    -- a symbol of one character does not become one of two, nor the other way round
    split
    case h_7 hle hne =>
      have hle := toLower_ne_cons (by decide) hle
      have hne := toLower_ne_cons (by decide) hne
      split <;> simp_all [Agree, Lexeme.lowered]
    case h_8 hge =>
      have hge := toLower_ne_cons (by decide) hge
      split <;> simp_all [Agree, Lexeme.lowered]
    case h_9 hstar =>
      have hstar := toLower_ne_cons (by decide) hstar
      split <;> simp_all [Agree, Lexeme.lowered]
    case h_10 hno hlt hgt htilde _ _ hbang _ _ =>
      have hbang : ∀ tail, c = '!' → rest.map Char.toLower = '=' :: tail → False :=
        fun tail hc => toLower_ne_cons (by decide) (fun left => hbang left hc) tail
      split <;> simp_all [Agree]
    all_goals
      exact ⟨rfl, rfl⟩

/-- No quote is taken for a lexeme that does not start with one. -/
theorem quote_not_mem_of_read {c : Char} (hc : c ≠ '\'') {rest : List Char} {lexeme : Lexeme}
    {more : Nat} (h : Lexeme.read c rest = .ok (lexeme, more)) : '\'' ∉ rest.take more := by
  unfold Lexeme.read at h
  split_ifs at h with hopen hclose hopening hclosing hcomma hnumeral hword
  case pos | pos | pos | pos | pos => cases h; exact List.not_mem_nil
  case pos =>
    -- a numeral
    split at h
    · next v numeral hscan =>
        cases h
        obtain rfl := eq_numeralText_of_scanNumeral hscan
        intro hquote
        exact absurd (mem_numeralText (take_subset_numeralText c rest hquote)) (by decide)
    · cases h
  case pos =>
    -- a word
    cases h
    rw [← List.prefix_iff_eq_take.mp (List.takeWhile_prefix isWordPart)]
    intro hquote
    have hpart : isWordPart '\'' = true := List.all_eq_true.mp List.all_takeWhile _ hquote
    exact absurd hpart (by decide)
  case neg =>
    -- a symbol
    split at h <;> cases h <;> simp

/-- Texts that are the same up to case outside of quoted texts start with the same lexeme up to case,
and behind it they are the same in this way again. -/
theorem agree_read {c d : Char} {cs ds : List Char} (h : lowered (c :: cs) = lowered (d :: ds)) :
    Agree (fun _ _ => True)
      (fun x y => x.1.lowered = y.1.lowered ∧ x.2 = y.2 ∧
        lowered (cs.drop x.2) = lowered (ds.drop y.2))
      (Lexeme.read c cs) (Lexeme.read d ds) := by
  obtain ⟨hfirst, hlower⟩ := List.cons.inj (toLower_congr_lowered h)
  have hquote : '\''.isAlpha = false := by decide
  by_cases hc : c = '\''
  · subst hc
    obtain rfl : d = '\'' := (toLower_eq_iff hquote).mp hfirst.symm
    obtain ⟨hread, hleft⟩ := readQuoted_congr h
    cases hcs : readQuoted cs with
    | none =>
        rw [hcs] at hread
        simp [Lexeme.read, hcs, hread, Agree]
    | some x =>
        obtain ⟨s, count⟩ := x
        rw [Lexeme.read_quote hcs, Lexeme.read_quote (hread.trans hcs)]
        exact ⟨rfl, rfl, hleft s count hcs⟩
  · have hd : d ≠ '\'' := by
      rintro rfl
      exact hc ((toLower_eq_iff hquote).mp hfirst)
    rw [lowered_cons hc, lowered_cons hd] at h
    have htexts := (List.cons.inj h).2
    have hlength : cs.length = ds.length := by simpa using congrArg List.length hlower
    -- both lexemes are the one of the text that is in lower case throughout
    have hdread := agree_read_toLower hd ds
    rw [← hfirst, ← hlower] at hdread
    refine ((agree_read_toLower hc cs).join hdread).mono ?_ fun _ _ _ => trivial
    rintro ⟨l, n⟩ ⟨l', n'⟩ hl hl' ⟨m, ⟨heq, hn⟩, heq', hn'⟩
    obtain rfl : n = n' := hn.symm.trans hn'
    refine ⟨heq.symm.trans heq', rfl, ?_⟩
    -- neither of the lexemes contains a quote, so the texts are the same up to case behind them
    rw [← List.take_append_drop n cs, ← List.take_append_drop n ds,
      lowered_append (quote_not_mem_of_read hc hl),
      lowered_append (quote_not_mem_of_read hd hl')] at htexts
    exact (List.append_inj htexts (by simp [hlength])).2

/-! ## Tokens -/

/-- A token with its words and its characters in lower case. -/
def Token.lowered (t : Token) : Token := ⟨t.lexeme.lowered, asciiLower t.text, t.offset⟩

/-- **Texts that are the same up to case** outside of quoted texts have the same tokens up to case,
or faults of one kind. -/
theorem agree_scan (offset : Nat) : ∀ {cs ds : List Char}, lowered cs = lowered ds →
    Agree Fault.SameKind (fun ts us => ts.map Token.lowered = us.map Token.lowered)
      (Token.scan offset cs) (Token.scan offset ds)
  | [], ds, h => by
      obtain rfl : ds = [] := List.map_eq_nil_iff.mp (toLower_congr_lowered h).symm
      rw [Token.scan, scanWith_nil]
      rfl
  | c :: cs, ds, h => by
      obtain ⟨d, ds, rfl, hd, htail⟩ := List.map_eq_cons_iff.mp (toLower_congr_lowered h).symm
      have hblank : isBlank d = isBlank c := by
        rw [← isBlank_toLower d, hd, isBlank_toLower]
      cases hc : isBlank c with
      | true =>
          -- a blank in both texts, so no quoted text starts here
          have hdc := hblank.trans hc
          have hne : ∀ {c : Char}, isBlank c = true → c ≠ '\'' := by
            rintro c hc rfl
            cases hc
          have hsize : d.utf8Size = c.utf8Size := by
            rw [← utf8Size_toLower d, hd, utf8Size_toLower]
          rw [lowered_cons (hne hc), lowered_cons (hne hdc)] at h
          rw [Token.scan, Token.scan, scanWith_blank hc, scanWith_blank hdc, hsize]
          exact agree_scan _ (List.cons.inj h).2
      | false =>
          have hdc := hblank.trans hc
          obtain ⟨⟨lexeme, more⟩, ⟨lexeme', more'⟩, hread, hdread, hlexeme, hmore, hleft⟩ |
            ⟨_, _, hread, hdread, -⟩ := (agree_read h).ok_or_error
          · -- both lexemes end at the same place, and the texts go on alike behind them
            obtain rfl : more = more' := hmore
            have htext : (c :: cs.take more).map Char.toLower =
                (d :: ds.take more).map Char.toLower := by
              rw [List.map_cons, List.map_cons, List.map_take, List.map_take, hd, htail]
            have htoken : (⟨lexeme, String.ofList (c :: cs.take more), offset⟩ : Token).lowered =
                (⟨lexeme', String.ofList (d :: ds.take more), offset⟩ : Token).lowered := by
              simp only [Token.lowered, hlexeme, asciiLower, String.toList_ofList, htext]
            rw [Token.scan_read hc hread, Token.scan_read hdc hdread,
              byteLength_congr_toLower htext]
            refine (agree_scan _ hleft).map fun ts us htokens => ?_
            rw [List.map_cons, List.map_cons, htoken, htokens]
          · rw [Token.scan_unread hc hread, Token.scan_unread hdc hdread]
            exact ⟨(Lexeme.isLexical _ _ _ hread).trans (Lexeme.isLexical _ _ _ hdread).symm, rfl⟩
termination_by cs => cs.length
decreasing_by all_goals simp only [List.length_cons, List.length_drop]; omega

end Tabular.Condition
