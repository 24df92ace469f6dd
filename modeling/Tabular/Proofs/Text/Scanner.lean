import Tabular.Proofs.Text.Divider
import Tabular.Proofs.Text.Place
import Tabular.Text.Scanner

set_option autoImplicit false

/-! # Scanning

What holds of one scanner (`scanWith`) holds of both languages, whatever their lexemes and tokens
are.

* A text that is moved has the same tokens, and the same fault, moved as far (`scanWith_add`).
* A text that has been scanned is scanned in the same way in front of whatever divides it from what
  comes after, which is then scanned as from there on (`scanWith_append`).
* A token is made of what is read at its place, which no blank is at (`exists_read_of_mem_scanWith`),
  and so is a fault (`isAt_of_scanWith`).
* What tokens show apart from their places does not depend on where the text starts (`ScansAs`), so
  it is found from the end of a text to its front, one lexeme at a time.
-/

namespace Tabular

/-! ## Moved outcomes -/

/-- A fault of a text that stands some bytes further on. -/
def Fault.moved (n : Nat) (fault : Fault) : Fault := ⟨fault.cause, fault.offset.map (n + ·)⟩

/-- What is scanned **behind** some tokens, a number of bytes further on: these tokens and then the
later ones, or else the later fault, both moved by the number of bytes. -/
def scannedBehind {T : Type} (move : Nat → T → T) (tokens : List T) (n : Nat) :
    Except Fault (List T) → Except Fault (List T)
  | .ok later => .ok (tokens ++ later.map (move n))
  | .error fault => .error (fault.moved n)

/-! ## One scan -/

section

variable {L T : Type} {read : Char → List Char → Except Cause (L × Nat)}
  {token : L → List Char → Nat → T}

theorem scanWith_nil (offset : Nat) : scanWith read token offset [] = .ok [] := by
  rw [scanWith.eq_def]

theorem scanWith_blank {c : Char} (hc : isBlank c = true) (offset : Nat) (cs : List Char) :
    scanWith read token offset (c :: cs) = scanWith read token (offset + c.utf8Size) cs := by
  rw [scanWith.eq_def]
  exact if_pos hc

/-- At a character that is no blank a lexeme is read. -/
theorem scanWith_lexeme {c : Char} (hc : isBlank c = false) (offset : Nat) (cs : List Char) :
    scanWith read token offset (c :: cs) = match read c cs with
      | .error cause => .error (.placed cause offset)
      | .ok (lexeme, more) =>
        match scanWith read token (offset + byteLength (c :: cs.take more)) (cs.drop more) with
        | .error fault => .error fault
        | .ok tokens => .ok (token lexeme (c :: cs.take more) offset :: tokens) := by
  rw [scanWith.eq_def]
  exact if_neg (Bool.eq_false_iff.mp hc)

theorem scanWith_unread {c : Char} {cs : List Char} {cause : Cause} (hc : isBlank c = false)
    (hread : read c cs = .error cause) (offset : Nat) :
    scanWith read token offset (c :: cs) = .error (.placed cause offset) := by
  rw [scanWith_lexeme hc, hread]

/-- Behind a lexeme that is read the scan goes on, and its token comes first. -/
theorem scanWith_read {c : Char} {cs : List Char} {lexeme : L} {more : Nat}
    (hc : isBlank c = false) (hread : read c cs = .ok (lexeme, more)) (offset : Nat) :
    scanWith read token offset (c :: cs) =
      (scanWith read token (offset + byteLength (c :: cs.take more)) (cs.drop more)).map
        (token lexeme (c :: cs.take more) offset :: ·) := by
  rw [scanWith_lexeme hc, hread]
  dsimp only
  split
  · next hscan => rw [hscan]; rfl
  · next hscan => rw [hscan]; rfl

/-- **A text that is moved** has the same tokens, or the same fault, moved as far. -/
theorem scanWith_add {move : Nat → T → T}
    (hmove : ∀ (n offset : Nat) (l : L) (cs : List Char),
      move n (token l cs offset) = token l cs (n + offset)) (n offset : Nat) (cs : List Char) :
    scanWith read token (n + offset) cs =
      scannedBehind move [] n (scanWith read token offset cs) := by
  fun_induction scanWith read token offset cs with
  | case1 offset => exact scanWith_nil _
  | case2 offset c rest hc ih => rw [scanWith_blank hc, Nat.add_assoc, ih]
  | case3 offset c rest hc cause hread =>
      exact scanWith_unread (Bool.eq_false_iff.mpr hc) hread _
  | case4 offset c rest hc lexeme more hread lexed fault hscan ih =>
      rw [scanWith_read (Bool.eq_false_iff.mpr hc) hread, Nat.add_assoc, ih, hscan]
      rfl
  | case5 offset c rest hc lexeme more hread lexed tokens hscan ih =>
      rw [scanWith_read (Bool.eq_false_iff.mpr hc) hread, Nat.add_assoc, ih, hscan]
      simp only [scannedBehind, Except.map, List.nil_append, List.map_cons, hmove]
      rfl

/-- **A text is scanned as it is alone** in front of what lets each of its lexemes stay, and what
comes after it is scanned from its end on. -/
theorem scanWith_append {rest : List Char}
    (hread : ∀ (c : Char) (cs : List Char), Stays cs.length (read c cs) (read c (cs ++ rest)))
    {cs : List Char} {offset : Nat} {tokens : List T}
    (h : scanWith read token offset cs = .ok tokens) :
    scanWith read token offset (cs ++ rest) =
      (scanWith read token (offset + byteLength cs) rest).map (tokens ++ ·) := by
  fun_induction scanWith read token offset cs generalizing tokens with
  | case1 offset =>
      cases h
      rw [List.nil_append, byteLength_nil, Nat.add_zero]
      cases scanWith read token offset rest <;> rfl
  | case2 offset c cs hc ih =>
      rw [List.cons_append, scanWith_blank hc, ih h, byteLength_cons, Nat.add_assoc]
  | case3 => cases h
  | case4 => cases h
  | case5 offset c cs hc lexeme more hlexeme lexed scanned hscan =>
      rename_i ih
      cases h
      obtain ⟨happend, hmore⟩ := hread _ _ _ _ hlexeme
      -- the lexeme ends within the text, so what is left of the text comes before the rest
      have htake : (cs ++ rest).take more = cs.take more := List.take_append_of_le_length hmore
      have hdrop : (cs ++ rest).drop more = cs.drop more ++ rest :=
        List.drop_append_of_le_length hmore
      have hlength : byteLength (c :: cs) = byteLength lexed + byteLength (cs.drop more) := by
        rw [← byteLength_append, List.cons_append, List.take_append_drop]
      rw [List.cons_append, scanWith_read (Bool.eq_false_iff.mpr hc) happend, htake, hdrop,
        ih hscan, hlength, ← Nat.add_assoc]
      cases scanWith read token (offset + byteLength lexed + byteLength (cs.drop more)) rest <;> rfl

end

/-! ## Places of tokens and faults -/

section

variable {L T : Type} {read : Char → List Char → Except Cause (L × Nat)}
  {token : L → List Char → Nat → T} {cs : List Char} {start : Nat}

/-- **A token is made of what is read at its place**, which is as many bytes into the text as there
are in front of it. -/
theorem exists_read_of_mem_scanWith {tokens : List T}
    (h : scanWith read token start cs = .ok tokens) : ∀ t ∈ tokens,
      ∃ (front : List Char) (c : Char) (rest : List Char) (lexeme : L) (more : Nat),
        cs = front ++ c :: rest ∧ isBlank c = false ∧ read c rest = .ok (lexeme, more) ∧
        t = token lexeme (c :: rest.take more) (start + byteLength front) := by
  fun_induction scanWith read token start cs generalizing tokens with
  | case1 =>
      cases h
      intro t ht
      cases ht
  | case2 start b cs hb ih =>
      intro t ht
      obtain ⟨front, c, rest, lexeme, more, rfl, hc, hread, rfl⟩ := ih h t ht
      refine ⟨b :: front, c, rest, lexeme, more, rfl, hc, hread, ?_⟩
      rw [byteLength_cons, Nat.add_assoc]
  | case3 => cases h
  | case4 => cases h
  | case5 start b cs hb lexeme more hread lexed scanned hscan =>
      rename_i ih
      cases h
      intro t ht
      rcases List.mem_cons.mp ht with rfl | ht
      · exact ⟨[], b, cs, lexeme, more, rfl, Bool.eq_false_iff.mpr hb, hread, rfl⟩
      · obtain ⟨front, c, rest, lexeme', more', hfront, hc, hread', rfl⟩ := ih hscan t ht
        refine ⟨lexed ++ front, c, rest, lexeme', more', ?_, hc, hread', ?_⟩
        · rw [List.cons_append, List.cons_append, List.append_assoc, ← hfront,
            List.take_append_drop]
        · rw [byteLength_append, Nat.add_assoc]

/-- A reader of lexemes is **lexical** when whatever it does not read is at fault for its
characters. -/
def IsLexical (read : Char → List Char → Except Cause (L × Nat)) : Prop :=
  ∀ (c : Char) (cs : List Char) (cause : Cause), read c cs = .error cause → cause.phase = .lexical

/-- **A text is blamed for its characters where a token would start.** -/
theorem isAt_of_scanWith (hread : IsLexical read) {fault : Fault}
    (h : scanWith read token start cs = .error fault) : fault.IsAt (PlaceIn start cs) := by
  fun_induction scanWith read token start cs with
  | case1 => cases h
  | case2 start c cs hc ih => exact (ih h).mono fun o ho => ho.cons
  | case3 start c cs hc cause hcause =>
      cases h
      refine Fault.isAt_placed ?_ (placeIn_cons hc)
      rw [hread c cs cause hcause]
      decide
  | case4 start c cs hc lexeme more hlexeme lexed fault hscan =>
      rename_i ih
      cases h
      exact (ih hscan).mono fun o ho => ho.behind
  | case5 => cases h

end

/-! ## What a text scans as -/

/-- A text **scans as** some views when, from any place on, it has tokens with these views. -/
def ScansAs {L T V : Type} (read : Char → List Char → Except Cause (L × Nat))
    (token : L → List Char → Nat → T) (view : T → V) (cs : List Char) (views : List V) : Prop :=
  ∀ offset : Nat, ∃ tokens : List T,
    scanWith read token offset cs = .ok tokens ∧ tokens.map view = views

/-- A reader of lexemes **reads numerals** when it scans one wherever a digit or a point starts. -/
def ReadsNumerals {L : Type} (read : Char → List Char → Except Cause (L × Nat))
    (number : Float → L) : Prop :=
  ∀ (c : Char) (cs : List Char), c.isDigit = true ∨ c = '.' → read c cs =
    match scanNumeral (c :: cs) with
    | .ok (v, literal) => .ok (number v, literal.length - 1)
    | .error blamed => .error (.invalidNumeral (String.ofList blamed))

theorem ne_of_numeralStart {c d : Char} (hc : c.isDigit = true ∨ c = '.')
    (hd : d.isDigit = false ∧ d ≠ '.') : c ≠ d := by
  rintro rfl
  rcases hc with hdigit | hpoint
  · exact Bool.eq_false_iff.mp hd.1 hdigit
  · exact hd.2 hpoint

section

variable {L T V : Type} {read : Char → List Char → Except Cause (L × Nat)}
  {token : L → List Char → Nat → T} {view : T → V} {rest : List Char} {views : List V} {v : V}

theorem ScansAs.nil : ScansAs read token view [] [] := fun offset => ⟨[], scanWith_nil offset, rfl⟩

theorem ScansAs.blank {c : Char} (hc : isBlank c = true) (h : ScansAs read token view rest views) :
    ScansAs read token view (c :: rest) views := by
  intro offset
  rw [scanWith_blank hc]
  exact h _

/-- A lexeme in front is scanned together with the characters that it takes. -/
theorem ScansAs.cons {c : Char} {lexeme : L} (more : List Char) (hc : isBlank c = false)
    (hread : read c (more ++ rest) = .ok (lexeme, more.length))
    (h : ScansAs read token view rest views)
    (hview : ∀ offset : Nat, view (token lexeme (c :: more) offset) = v := by intro; rfl) :
    ScansAs read token view (c :: (more ++ rest)) (v :: views) := by
  intro offset
  obtain ⟨tokens, hscan, rfl⟩ := h (offset + byteLength (c :: more))
  refine ⟨token lexeme (c :: more) offset :: tokens, ?_, by rw [List.map_cons, hview]⟩
  rw [scanWith_read hc hread, List.take_left, List.drop_left, hscan]
  rfl

/-- The plain text of a finite number is a number, when nothing after it could go on with it. -/
theorem ScansAs.numeral {number : Float → L} (hnumerals : ReadsNumerals read number) {x : Float}
    {cs : List Char} (hplain : IsPlain cs) (hread : readUnsigned? cs = some x)
    (hfinite : x.isFinite = true)
    (hrest : ∀ c ∈ rest.head?, c.isDigit = false ∧ c ≠ '.' ∧ c ≠ 'e' ∧ c ≠ 'E')
    (hview : ∀ offset : Nat, view (token (number x) cs offset) = v)
    (h : ScansAs read token view rest views) :
    ScansAs read token view (cs ++ rest) (v :: views) := by
  have hscan := scanNumeral_append hplain hread hfinite hrest
  cases cs with
  | nil => cases hread
  | cons c more =>
      have hc := hplain c List.mem_cons_self
      have hlexeme := hnumerals c (more ++ rest) hc
      rw [← List.cons_append, hscan] at hlexeme
      exact h.cons more (isBlank_of_plain hc) hlexeme hview

variable (move : Nat → T → T)
  (hmove : ∀ (n offset : Nat) (l : L) (cs : List Char),
    move n (token l cs offset) = token l cs (n + offset))
  (hview : ∀ (n : Nat) (t : T), view (move n t) = view t)
  {cs : List Char} {offset : Nat} {tokens : List T}
include hmove hview

/-- What is scanned at one place is scanned at all places. -/
theorem scansAs_of_scanWith (h : scanWith read token offset cs = .ok tokens) :
    ScansAs read token view cs (tokens.map view) := by
  intro o
  have hmoved : ∀ n : Nat, scanWith read token n cs =
      scannedBehind move [] n (scanWith read token 0 cs) := fun n => scanWith_add hmove n 0 cs
  have hviews : ∀ (n : Nat) (ts : List T), (ts.map (move n)).map view = ts.map view := by
    intro n ts
    rw [List.map_map]
    exact List.map_congr_left fun t _ => hview n t
  rw [hmoved offset] at h
  rw [hmoved o]
  cases hscan : scanWith read token 0 cs with
  | error fault =>
      rw [hscan] at h
      cases h
  | ok scanned =>
      rw [hscan] at h
      cases h
      exact ⟨_, rfl, (hviews o scanned).trans (hviews offset scanned).symm⟩

/-- **A text scans as it does alone** in front of what lets each of its lexemes stay. -/
theorem ScansAs.append
    (hstays : ∀ (c : Char) (cs : List Char), Stays cs.length (read c cs) (read c (cs ++ rest)))
    (h : scanWith read token offset cs = .ok tokens) (hrest : ScansAs read token view rest views) :
    ScansAs read token view (cs ++ rest) (tokens.map view ++ views) := by
  intro o
  obtain ⟨scanned, hscanned, hsame⟩ := scansAs_of_scanWith move hmove hview h o
  obtain ⟨later, hlater, rfl⟩ := hrest (o + byteLength cs)
  refine ⟨scanned ++ later, ?_, ?_⟩
  · rw [scanWith_append hstays hscanned, hlater]
    rfl
  · rw [List.map_append, hsame]

end

end Tabular
