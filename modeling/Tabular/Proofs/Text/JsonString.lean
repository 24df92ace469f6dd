import Mathlib.Tactic.SplitIfs
import Tabular.Program.Transform

set_option autoImplicit false

/-! # The grammar of JSON strings

    string := '"' piece* '"'
    piece  := any character from the space on, save quotes and backslashes
            | '\' ( '"' | '\' | '/' | 'b' | 'f' | 'n' | 'r' | 't' )
            | '\' 'u' hex hex hex hex

Each piece spells one character (`Piece`), except that two code units, a high and a low surrogate,
are the halves of one character and count as one piece. The quoted form of a text is a string that
spells it (`spells_flatMap_escape`), and a reader of strings finds the text again wherever its
quoted form stands (`readString?_quote`). So no other text has the same quoted form.
-/

namespace Tabular.JsonString

/-! ## Pieces -/

/-- The character that a letter stands for behind a backslash. -/
def escaped? : Char → Option Char
  | '"' => some '"'
  | '\\' => some '\\'
  | '/' => some '/'
  | 'b' => some '\x08'
  | 'f' => some '\x0c'
  | 'n' => some '\n'
  | 'r' => some '\r'
  | 't' => some '\t'
  | _ => none

/-- The value of a hexadecimal digit, in either case. -/
def hexValue? (c : Char) : Option Nat :=
  if '0' ≤ c ∧ c ≤ '9' then some (c.toNat - '0'.toNat)
  else if 'a' ≤ c ∧ c ≤ 'f' then some (c.toNat - 'a'.toNat + 10)
  else if 'A' ≤ c ∧ c ≤ 'F' then some (c.toNat - 'A'.toNat + 10)
  else none

/-- The code unit that four hexadecimal digits write. -/
def codeUnit? (a b c d : Char) : Option Nat := do
  let a ← hexValue? a
  let b ← hexValue? b
  let c ← hexValue? c
  let d ← hexValue? d
  pure (((a * 16 + b) * 16 + c) * 16 + d)

/-- Whether a code unit is the first half of a character. -/
def isHigh (n : Nat) : Bool := 0xD800 ≤ n && n < 0xDC00

/-- Whether a code unit is the second half of a character. -/
def isLow (n : Nat) : Bool := 0xDC00 ≤ n && n < 0xE000

/-- The character of two halves. -/
def joinHalves (high low : Nat) : Char :=
  Char.ofNat (0x10000 + 0x400 * (high - 0xD800) + (low - 0xDC00))

/-- Whether a character stands for itself in a string. -/
def isPlain (c : Char) : Bool := c != '"' && c != '\\' && 0x20 ≤ c.toNat

/-- The **pieces** of a string, each with the character that it spells. -/
inductive Piece : List Char → Char → Prop
  | plain {c : Char} (hc : isPlain c = true) : Piece [c] c
  | letter {e c : Char} (he : escaped? e = some c) : Piece ['\\', e] c
  | unit {a b c d : Char} {n : Nat} (hn : codeUnit? a b c d = some n) (hhigh : isHigh n = false)
      (hlow : isLow n = false) : Piece ['\\', 'u', a, b, c, d] (Char.ofNat n)
  | halves {a b c d a' b' c' d' : Char} {m n : Nat} (hm : codeUnit? a b c d = some m)
      (hhigh : isHigh m = true) (hn : codeUnit? a' b' c' d' = some n) (hlow : isLow n = true) :
      Piece ['\\', 'u', a, b, c, d, '\\', 'u', a', b', c', d'] (joinHalves m n)

/-- Pieces one after the other **spell** a text. -/
inductive Spells : List Char → List Char → Prop
  | nil : Spells [] []
  | cons {piece rest cs : List Char} {c : Char} (hpiece : Piece piece c) (hrest : Spells rest cs) :
      Spells (piece ++ rest) (c :: cs)

/-! ## Reading pieces -/

/-- Reads a code unit in hexadecimal digits. -/
def readUnit? : List Char → Option (Nat × List Char)
  | '\\' :: 'u' :: a :: b :: c :: d :: rest => (codeUnit? a b c d).map (·, rest)
  | _ => none

/-- Reads a character that is no code unit in digits. -/
def readLetter? : List Char → Option (Char × List Char)
  | '\\' :: e :: rest => (escaped? e).map (·, rest)
  | c :: rest => if isPlain c then some (c, rest) else none
  | [] => none

/-- Reads the character that is spelled by the piece at the front of a text. -/
def readPiece? (cs : List Char) : Option (Char × List Char) :=
  match readUnit? cs with
  | none => readLetter? cs
  | some (m, rest) =>
    if isHigh m then
      match readUnit? rest with
      | none => none
      | some (n, rest) => if isLow n then some (joinHalves m n, rest) else none
    else if isLow m then none
    else some (Char.ofNat m, rest)

theorem readUnit?_eq_some {cs rest : List Char} {n : Nat} : readUnit? cs = some (n, rest) ↔
    ∃ a b c d, codeUnit? a b c d = some n ∧ cs = '\\' :: 'u' :: a :: b :: c :: d :: rest := by
  constructor
  · intro h
    unfold readUnit? at h
    split at h
    · obtain ⟨m, hm, heq⟩ := Option.map_eq_some_iff.mp h
      cases heq
      exact ⟨_, _, _, _, hm, rfl⟩
    · cases h
  · rintro ⟨a, b, c, d, hn, rfl⟩
    rw [readUnit?, hn, Option.map_some]

/-- A piece is read off the front of any text. -/
theorem readPiece?_append {piece : List Char} {c : Char} (h : Piece piece c) (rest : List Char) :
    readPiece? (piece ++ rest) = some (c, rest) := by
  cases h with
  | plain hc =>
      have hslash : c ≠ '\\' := by
        rintro rfl
        cases hc
      simp [readPiece?, readUnit?, readLetter?, hslash, hc]
  | @letter e _ he =>
      have hu : e ≠ 'u' := by
        rintro rfl
        cases he
      simp [readPiece?, readUnit?, readLetter?, hu, he]
  | unit hn hhigh hlow => simp [readPiece?, readUnit?, hn, hhigh, hlow]
  | halves hm hhigh hn hlow => simp [readPiece?, readUnit?, hm, hhigh, hn, hlow]

/-- What is read off the front of a text is a piece. -/
theorem exists_piece_of_readPiece? {cs rest : List Char} {c : Char}
    (h : readPiece? cs = some (c, rest)) : ∃ piece, Piece piece c ∧ cs = piece ++ rest := by
  unfold readPiece? at h
  split at h
  · -- a letter, or a character that stands for itself
    unfold readLetter? at h
    split at h
    · obtain ⟨d, hd, heq⟩ := Option.map_eq_some_iff.mp h
      cases heq
      exact ⟨_, .letter hd, rfl⟩
    · split at h
      · next hplain =>
          cases h
          exact ⟨_, .plain hplain, rfl⟩
      · cases h
    · cases h
  · -- a code unit, of a character or of its first half
    next m left hunit =>
      obtain ⟨_, _, _, _, hm, rfl⟩ := readUnit?_eq_some.mp hunit
      split at h
      · next hhigh =>
          split at h
          · cases h
          · next n left hunit =>
              obtain ⟨_, _, _, _, hn, rfl⟩ := readUnit?_eq_some.mp hunit
              split at h
              · next hlow =>
                  obtain ⟨rfl, rfl⟩ := Prod.mk.inj (Option.some.inj h)
                  exact ⟨_, .halves hm hhigh hn hlow, rfl⟩
              · cases h
      · next hhigh =>
          split at h
          · cases h
          · next hlow =>
              obtain ⟨rfl, rfl⟩ := Prod.mk.inj (Option.some.inj h)
              exact ⟨_, .unit hm (Bool.eq_false_iff.mpr hhigh) (Bool.eq_false_iff.mpr hlow), rfl⟩

/-- A piece does not start with a quote. -/
theorem Piece.exists_cons {piece : List Char} {c : Char} (h : Piece piece c) :
    ∃ (d : Char) (more : List Char), piece = d :: more ∧ d ≠ '"' := by
  cases h with
  | plain hc =>
      refine ⟨_, _, rfl, ?_⟩
      rintro rfl
      cases hc
  | letter | unit | halves => exact ⟨_, _, rfl, by decide⟩

/-- Reading a piece makes a text shorter. -/
theorem length_lt_of_readPiece? {cs rest : List Char} {c : Char}
    (h : readPiece? cs = some (c, rest)) : rest.length < cs.length := by
  obtain ⟨piece, hpiece, rfl⟩ := exists_piece_of_readPiece? h
  obtain ⟨d, more, rfl, -⟩ := hpiece.exists_cons
  simp only [List.length_append, List.length_cons]
  omega

/-! ## Reading strings -/

/-- Reads the text that is spelled up to the closing quote. -/
def readBody? (cs : List Char) : Option (List Char × List Char) :=
  if cs.head? = some '"' then some ([], cs.tail)
  else
    match _hpiece : readPiece? cs with
    | none => none
    | some (c, rest) => (readBody? rest).map fun (text, left) => (c :: text, left)
termination_by cs.length
decreasing_by exact length_lt_of_readPiece? _hpiece

/-- Reads the text of the JSON string at the front of a text. -/
def readString? : List Char → Option (List Char × List Char)
  | '"' :: rest => readBody? rest
  | _ => none

theorem readBody?_quote (rest : List Char) : readBody? ('"' :: rest) = some ([], rest) := by
  rw [readBody?, List.head?_cons, if_pos rfl, List.tail_cons]

/-- In front of a piece, its character is read first. -/
theorem readBody?_piece {piece : List Char} {c : Char} (h : Piece piece c) (rest : List Char) :
    readBody? (piece ++ rest) = (readBody? rest).map fun (text, left) => (c :: text, left) := by
  have hread := readPiece?_append h rest
  have hhead : (piece ++ rest).head? ≠ some '"' := by
    obtain ⟨d, more, rfl, hd⟩ := h.exists_cons
    simpa using hd
  rw [readBody?, if_neg hhead]
  split
  · simp_all
  · simp_all

/-- What is spelled is read, up to the closing quote. -/
theorem readBody?_append {body text : List Char} (h : Spells body text) (rest : List Char) :
    readBody? (body ++ '"' :: rest) = some (text, rest) := by
  induction h with
  | nil => exact readBody?_quote rest
  | cons hpiece hrest ih => rw [List.append_assoc, readBody?_piece hpiece, ih, Option.map_some]

/-- What is read is spelled up to the closing quote. -/
theorem exists_spells_of_readBody? {cs text rest : List Char}
    (h : readBody? cs = some (text, rest)) :
    ∃ body, Spells body text ∧ cs = body ++ '"' :: rest := by
  fun_induction readBody? cs generalizing text with
  | case1 cs hhead =>
      obtain ⟨left, rfl⟩ := List.head?_eq_some_iff.mp hhead
      cases h
      exact ⟨[], .nil, rfl⟩
  | case2 => cases h
  | case3 cs hhead c left hpiece ih =>
      obtain ⟨⟨more, after⟩, hmore, heq⟩ := Option.map_eq_some_iff.mp h
      cases heq
      obtain ⟨piece, hspelled, rfl⟩ := exists_piece_of_readPiece? hpiece
      obtain ⟨body, hbody, rfl⟩ := ih hmore
      exact ⟨piece ++ body, .cons hspelled hbody, (List.append_assoc ..).symm⟩

/-- **The reader of strings** takes what is spelled between quotes, and nothing else. -/
theorem readString?_eq_some {cs text rest : List Char} : readString? cs = some (text, rest) ↔
    ∃ body, Spells body text ∧ cs = '"' :: (body ++ '"' :: rest) := by
  constructor
  · intro h
    unfold readString? at h
    split at h
    · obtain ⟨body, hbody, rfl⟩ := exists_spells_of_readBody? h
      exact ⟨body, hbody, rfl⟩
    · cases h
  · rintro ⟨body, hbody, rfl⟩
    exact readBody?_append hbody rest

/-! ## Quoted texts -/

/-- The two digits of a control character, behind two zeros, write its number. -/
theorem codeUnit?_control : ∀ n < 0x20,
    codeUnit? '0' '0' (hexDigit (n / 16)) (hexDigit (n % 16)) = some n := by
  decide

/-- **A character is escaped as a piece** that spells it. -/
theorem piece_escape (c : Char) : Piece (escape c) c := by
  unfold escape
  split_ifs with hquote hslash hfeed hreturn htab hback hform hcontrol
  case pos | pos | pos | pos | pos | pos | pos => subst_vars; exact .letter rfl
  case pos =>
    have hunit := codeUnit?_control c.toNat hcontrol
    have hpiece := Piece.unit hunit (by simp [isHigh]; omega) (by simp [isLow]; omega)
    rwa [Char.ofNat_toNat] at hpiece
  case neg =>
    refine .plain ?_
    simp [isPlain, hquote, hslash, Nat.not_lt.mp hcontrol]

/-- The escaped characters of a text spell it. -/
theorem spells_flatMap_escape (cs : List Char) : Spells (cs.flatMap escape) cs := by
  induction cs with
  | nil => exact .nil
  | cons c cs ih => exact .cons (piece_escape c) ih

theorem toList_quote (s : String) :
    (quote s).toList = '"' :: (s.toList.flatMap escape ++ ['"']) := by
  rw [quote, String.toList_ofList, encode]

/-- **A quoted text is read again**, whatever comes after it. -/
theorem readString?_quote (s : String) (rest : List Char) :
    readString? ((quote s).toList ++ rest) = some (s.toList, rest) := by
  refine readString?_eq_some.mpr ⟨_, spells_flatMap_escape s.toList, ?_⟩
  rw [toList_quote, List.cons_append, List.append_assoc, List.singleton_append]

/-! ### Control characters -/

/-- A hexadecimal digit is no control character. -/
theorem not_control_of_hexValue? {c : Char} {n : Nat} (h : hexValue? c = some n) :
    0x20 ≤ c.toNat := by
  have hbound : ∀ first : Char, 0x20 ≤ first.toNat → first ≤ c → 0x20 ≤ c.toNat :=
    fun _ hfirst hc => Nat.le_trans hfirst hc
  unfold hexValue? at h
  split_ifs at h with hdigit hlower hupper
  · exact hbound '0' (by decide) hdigit.1
  · exact hbound 'a' (by decide) hlower.1
  · exact hbound 'A' (by decide) hupper.1

/-- Nor are the characters that write a code unit. -/
theorem not_control_of_codeUnit? {a b c d : Char} {n : Nat} (h : codeUnit? a b c d = some n) :
    ∀ e ∈ ['\\', 'u', a, b, c, d], 0x20 ≤ e.toNat := by
  obtain ⟨_, ha, h⟩ := Option.bind_eq_some_iff.mp h
  obtain ⟨_, hb, h⟩ := Option.bind_eq_some_iff.mp h
  obtain ⟨_, hc, h⟩ := Option.bind_eq_some_iff.mp h
  obtain ⟨_, hd, -⟩ := Option.bind_eq_some_iff.mp h
  simp [not_control_of_hexValue? ha, not_control_of_hexValue? hb, not_control_of_hexValue? hc,
    not_control_of_hexValue? hd]

theorem not_control_of_escaped? {e c : Char} (h : escaped? e = some c) : 0x20 ≤ e.toNat := by
  unfold escaped? at h
  split at h
  case h_9 => cases h
  all_goals decide

/-- A piece has no control characters. -/
theorem Piece.not_control {piece : List Char} {c : Char} (h : Piece piece c) :
    ∀ d ∈ piece, 0x20 ≤ d.toNat := by
  cases h with
  | plain hc =>
      simp only [isPlain, Bool.and_eq_true, decide_eq_true_eq] at hc
      simpa using hc.2
  | letter he => simp [not_control_of_escaped? he]
  | unit hn hhigh hlow => exact not_control_of_codeUnit? hn
  | halves hm hhigh hn hlow =>
      have hfirst := not_control_of_codeUnit? hm
      have hsecond := not_control_of_codeUnit? hn
      exact List.forall_mem_append.mpr ⟨hfirst, hsecond⟩

/-- What spells a text has no control characters. -/
theorem Spells.not_control {body text : List Char} (h : Spells body text) :
    ∀ c ∈ body, 0x20 ≤ c.toNat := by
  induction h with
  | nil => exact List.forall_mem_nil _
  | cons hpiece hrest ih =>
      intro c hc
      rcases List.mem_append.mp hc with hc | hc
      · exact hpiece.not_control c hc
      · exact ih c hc

/-- A text is the only one with its quoted form. -/
theorem quote_injective : Function.Injective quote := by
  intro s t h
  have hs := readString?_quote s []
  have ht := readString?_quote t []
  rw [h, ht] at hs
  have htexts : t.toList = s.toList := congrArg Prod.fst (Option.some.inj hs)
  exact (String.toList_injective htexts).symm

/-- Values that are shown in the same way by the label of a test are the same. -/
theorem label_injective (column : String) (test : TextTest) (caseSensitive : Bool) :
    Function.Injective fun value =>
      (Transform.keepMatching column test (.one value) caseSensitive).label := by
  intro v w h
  simp only [Transform.label] at h
  exact quote_injective (String.append_right_inj _ |>.mp h)

/-- **Quoted texts are JSON strings.** Between one opening and one closing quote stand pieces that
spell the text, without control characters; a reader of strings gives back just the text, whatever
comes after the closing quote; and no two values have the same quoted form, nor the same label. -/
theorem quote_faithful :
    (∀ s : String, ∃ body : List Char, (quote s).toList = '"' :: (body ++ ['"']) ∧
      Spells body s.toList ∧ ∀ c ∈ body, 0x20 ≤ c.toNat) ∧
    (∀ (s : String) (rest : List Char),
      readString? ((quote s).toList ++ rest) = some (s.toList, rest)) ∧
    Function.Injective quote ∧
    ∀ (column : String) (test : TextTest) (caseSensitive : Bool), Function.Injective fun value =>
      (Transform.keepMatching column test (.one value) caseSensitive).label := by
  refine ⟨fun s => ?_, readString?_quote, quote_injective, label_injective⟩
  have hspells := spells_flatMap_escape s.toList
  exact ⟨_, toList_quote s, hspells, hspells.not_control⟩

end Tabular.JsonString
