import Tabular.Formula.Operator
import Tabular.Text.Scanner
import Tabular.Text.Word

set_option autoImplicit false

/-! # Tokens of formulas

A formula is read as a list of tokens with their places. Blanks separate tokens and mean nothing
else. A column name stands bare, when it is a word that names no function, or in braces; between
braces every character up to the first closing brace counts, blanks at the ends apart.
-/

namespace Tabular.Formula

/-- What a **token** of a formula says. -/
inductive Lexeme where
  | number (v : Float)
  | column (name : String)
  | function (f : Function)
  | operator (o : Operator)
  | opening
  | closing
  | comma
deriving BEq, Repr

/-- A lexeme as an error message describes it. -/
def Lexeme.describe : Lexeme → String
  | number v => s!"number {showNumber v}"
  | column name => s!"column '{name}'"
  | function f => s!"'{f.name}'"
  | operator o => s!"'{o.symbol}'"
  | opening => "'('"
  | closing => "')'"
  | comma => "','"

/-- A token: what it says and where it starts, in bytes. -/
structure Token where
  lexeme : Lexeme
  offset : Nat
deriving BEq, Repr

/-- The lexeme at the front of a text, whose first character is given apart and is no blank,
together with the number of characters it takes from the rest of the text. -/
def Lexeme.read (c : Char) (rest : List Char) : Except Cause (Lexeme × Nat) :=
  if c = '\x7b' then
    let raw := rest.takeWhile (· != '\x7d')
    if raw.length = rest.length then .error .unclosedBrace
    else
      match trim raw with
      | [] => .error .blankName
      | name => .ok (.column (String.ofList name), raw.length + 1)
  else if c.isDigit || c == '.' then
    match scanNumeral (c :: rest) with
    | .ok (v, numeral) => .ok (.number v, numeral.length - 1)
    | .error numeral => .error (.invalidNumeral (String.ofList numeral))
  else if isWordStart c then
    let tail := rest.takeWhile isWordPart
    let word := String.ofList (c :: tail)
    match Function.ofName? word with
    | some f => .ok (.function f, tail.length)
    | none => .ok (.column word, tail.length)
  else if c = '(' then .ok (.opening, 0)
  else if c = ')' then .ok (.closing, 0)
  else if c = ',' then .ok (.comma, 0)
  else
    match Operator.read? (c :: rest) with
    | some o => .ok (.operator o, o.symbol.length - 1)
    | none =>
      if c = '=' ∨ c = '!' ∨ c = '&' ∨ c = '|' then .error (.incompleteOperator c)
      else .error (.unexpectedCharacter c)

/-- The tokens of a text that starts at a place. -/
def Token.scan (offset : Nat) (cs : List Char) : Except Fault (List Token) :=
  scanWith Lexeme.read (fun lexeme _ offset => ⟨lexeme, offset⟩) offset cs

/-- The tokens of a formula. A blank text is at fault. -/
def Token.ofText (text : List Char) : Except Fault (List Token) :=
  if text.all isBlank then .error (.placed .blankFormula 0) else Token.scan 0 text

end Tabular.Formula
