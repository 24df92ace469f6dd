import Tabular.Proofs.Condition.Embedding
import Tabular.Proofs.Formula.Embedding

set_option autoImplicit false

/-! # Texts with a blank between them

A blank ends every token, and no token starts with one. So the tokens of a text, a blank and a second
text are those of the first text and then those of the second, moved by the bytes in front of it; and
what the second is at fault for, the whole is at fault for, as far on (`ofText_separated`). In the
language of conditions a text in quotes is one token between the two, whatever it contains.
-/

namespace Tabular

namespace Condition

/-- A text in quotes is one token, which takes it up from its first to its last character. -/
theorem Token.ofText_quote (s : String) :
    Token.ofText (quote s).toList = .ok [⟨.quoted s, quote s, 0⟩] := by
  have hread : readQuoted (doubled s.toList ++ ['\'']) =
      some (s.toList, (doubled s.toList ++ ['\'']).length) := by
    have hend : ([] : List Char).head? ≠ some '\'' := by decide
    rw [readQuoted_doubled hend, List.length_append, List.length_singleton]
  have htext : String.ofList ('\'' :: (doubled s.toList ++ ['\''])) = quote s := by
    rw [← toList_quote, String.ofList_toList]
  rw [Token.ofText, toList_quote, Token.scan_read (by decide) (Lexeme.read_quote hread),
    List.take_length, List.drop_length, String.ofList_toList, htext, Token.scan, scanWith_nil]
  rfl

section

variable {a : List Char} {tokens : List Token} (ha : Token.ofText a = .ok tokens)
include ha

/-- Behind a text and a blank, a second text is scanned as it is alone. -/
theorem Token.ofText_behind (b : List Char) : Token.ofText (a ++ ' ' :: b) =
    scannedBehind Token.moved tokens (byteLength a + 1) (Token.ofText b) := by
  have hmoved := Token.scan_add (byteLength a + 1) 0 b
  rw [Nat.add_zero] at hmoved
  rw [Token.ofText, Token.scan_append (divides_of_isBlank rfl) ha, Nat.zero_add, Token.scan,
    scanWith_blank (by decide)]
  show (Token.scan (byteLength a + 1) b).map (tokens ++ ·) = _
  rw [hmoved, Token.ofText]
  cases Token.scan 0 b <;> rfl

/-- Behind a text and a text in quotes, with blanks around it, a third text is scanned as it is
alone. -/
theorem Token.ofText_behind_quote (s : String) (b : List Char) :
    Token.ofText (a ++ ' ' :: ((quote s).toList ++ ' ' :: b)) =
      scannedBehind Token.moved (tokens ++ [⟨.quoted s, quote s, byteLength a + 1⟩])
        (byteLength a + 1 + byteLength (quote s).toList + 1) (Token.ofText b) := by
  have hfront : Token.ofText (a ++ ' ' :: (quote s).toList) =
      .ok (tokens ++ [⟨.quoted s, quote s, byteLength a + 1⟩]) := by
    rw [Token.ofText_behind ha, Token.ofText_quote]
    rfl
  have hlength : byteLength (a ++ ' ' :: (quote s).toList) =
      byteLength a + 1 + byteLength (quote s).toList := by
    rw [byteLength_append, byteLength_cons, Nat.add_assoc]
    rfl
  have hbehind := Token.ofText_behind hfront b
  rwa [List.append_assoc, List.cons_append, hlength] at hbehind

end

end Condition

namespace Formula

/-- Behind a formula and a blank, a text that is not blank is scanned as it is alone. -/
theorem Token.ofText_behind {a b : List Char} {tokens : List Token}
    (ha : Token.ofText a = .ok tokens) (hb : b.all isBlank = false) :
    Token.ofText (a ++ ' ' :: b) =
      scannedBehind Token.moved tokens (byteLength a + 1) (Token.ofText b) := by
  have hmoved := Token.scan_add (byteLength a + 1) 0 b
  have hall : (a ++ ' ' :: b).all isBlank = false := by
    rw [List.all_append, List.all_cons, hb, Bool.and_false, Bool.and_false]
  rw [Nat.add_zero] at hmoved
  rw [Token.ofText, hall, if_neg (by decide),
    Token.scan_append (divides_of_isBlank rfl) (Token.scan_of_ofText ha), Nat.zero_add, Token.scan,
    scanWith_blank (by decide)]
  show (Token.scan (byteLength a + 1) b).map (tokens ++ ·) = _
  rw [hmoved, Token.ofText, hb, if_neg (by decide)]
  cases Token.scan 0 b <;> rfl

end Formula

/-- **Scanning is compositional over blanks.** Let a text be scanned as some tokens. Then the text, a
blank and any second text are scanned as these tokens and the tokens of the second text, moved by the
bytes in front of it, as the end of the second text is moved too; and when the second text is at
fault, so is the whole, for the same cause and moved as far. In formulas this holds of each second
text that is not blank, for a blank one is at fault by itself only. In conditions, any text in quotes
between the two is one more token between theirs. -/
theorem ofText_separated :
    (∀ (a b : List Char) (tokens : List Condition.Token), Condition.Token.ofText a = .ok tokens →
      Condition.Token.ofText (a ++ ' ' :: b) =
        scannedBehind Condition.Token.moved tokens (byteLength a + 1) (Condition.Token.ofText b) ∧
      byteLength (a ++ ' ' :: b) = byteLength a + 1 + byteLength b ∧
      ∀ s : String,
        Condition.Token.ofText (a ++ ' ' :: ((Condition.quote s).toList ++ ' ' :: b)) =
          scannedBehind Condition.Token.moved
            (tokens ++ [⟨.quoted s, Condition.quote s, byteLength a + 1⟩])
            (byteLength a + 1 + byteLength (Condition.quote s).toList + 1)
            (Condition.Token.ofText b)) ∧
    ∀ (a b : List Char) (tokens : List Formula.Token), Formula.Token.ofText a = .ok tokens →
      b.all isBlank = false →
        Formula.Token.ofText (a ++ ' ' :: b) =
          scannedBehind Formula.Token.moved tokens (byteLength a + 1) (Formula.Token.ofText b) := by
  refine ⟨fun a b tokens ha => ⟨Condition.Token.ofText_behind ha b, ?_, fun s => ?_⟩,
    fun a b tokens ha hb => Formula.Token.ofText_behind ha hb⟩
  · rw [byteLength_append, byteLength_cons, Nat.add_assoc]
    rfl
  · exact Condition.Token.ofText_behind_quote ha s b

/-- A text whose last token would go on with a text that starts with an equals sign. -/
def openEndedSample : List Char := "'é'>".toList

/-- A text that starts with an equals sign and is at fault behind it. -/
def faultySample : List Char := "= #".toList

theorem ofText_separated_openEndedSample :
    (∃ tokens : List Condition.Token, Condition.Token.ofText openEndedSample = .ok tokens ∧
      tokens.map (fun t => (t.text, t.offset)) = [("'é'", 0), (">", 4)] ∧
      Condition.Token.ofText (openEndedSample ++ ' ' :: faultySample) =
        .error (.placed (.unexpectedCharacter '#') 8) ∧
      Condition.Token.ofText
          (openEndedSample ++ ' ' :: ((Condition.quote "it's \x7b").toList ++ ' ' :: [])) =
        .ok (tokens ++ [⟨.quoted "it's \x7b", "'it''s \x7b'", 6⟩])) ∧
    ∃ tokens : List Formula.Token, Formula.Token.ofText "\x7bé\x7d>".toList = .ok tokens ∧
      tokens.map Formula.Token.offset = [0, 4] ∧
      Formula.Token.ofText ("\x7bé\x7d>".toList ++ ' ' :: faultySample) =
        .error (.placed (.incompleteOperator '=') 6) := by
  constructor
  · have hcomputed : (Condition.Token.ofText openEndedSample).toOption.map
        (·.map fun t => (t.text, t.offset)) = some [("'é'", 0), (">", 4)] := by
      decide +kernel
    have hfault : Condition.Token.ofText faultySample =
        .error (.placed (.unexpectedCharacter '#') 2) := by
      cbv
    have hempty : Condition.Token.ofText [] = .ok [] := by cbv
    cases htokens : Condition.Token.ofText openEndedSample with
    | error fault =>
        rw [htokens] at hcomputed
        cases hcomputed
    | ok tokens =>
        rw [htokens] at hcomputed
        obtain ⟨hbehind, -, -⟩ := ofText_separated.1 _ faultySample tokens htokens
        obtain ⟨-, -, hquoted⟩ := ofText_separated.1 _ [] tokens htokens
        have hquote := hquoted "it's \x7b"
        rw [hfault] at hbehind
        rw [hempty] at hquote
        refine ⟨tokens, rfl, Option.some.inj hcomputed, hbehind, hquote.trans ?_⟩
        rw [show Condition.quote "it's \x7b" = "'it''s \x7b'" by decide +kernel]
        exact congrArg Except.ok (List.append_nil _)
  · have hcomputed : (Formula.Token.ofText "\x7bé\x7d>".toList).toOption.map
        (·.map Formula.Token.offset) = some [0, 4] := by
      decide +kernel
    have hfault : Formula.Token.ofText faultySample =
        .error (.placed (.incompleteOperator '=') 0) := by
      cbv
    cases htokens : Formula.Token.ofText "\x7bé\x7d>".toList with
    | error fault =>
        rw [htokens] at hcomputed
        cases hcomputed
    | ok tokens =>
        rw [htokens] at hcomputed
        have hbehind := ofText_separated.2 _ faultySample tokens htokens (by decide +kernel)
        rw [hfault] at hbehind
        exact ⟨tokens, rfl, Option.some.inj hcomputed, hbehind⟩

end Tabular
