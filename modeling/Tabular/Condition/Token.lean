import Tabular.Condition.Basic
import Tabular.Text.Scanner
import Tabular.Text.Word

set_option autoImplicit false

/-! # Tokens of conditions

The text of a condition is read as a list of tokens, each with its characters and its place.
Blanks separate tokens and mean nothing else. A quoted text stands between single quotes, with
each quote inside written twice.

Keywords are words, compared without regard to case. They are no class of tokens of their own:
where an operand has to stand, a word that could be a keyword is a column.
-/

namespace Tabular.Condition

/-- The keywords of conditions. -/
inductive Keyword where
  | and | or | not | between | like | ilike | true | false | null
deriving DecidableEq, Repr

namespace Keyword

/-- The word of a keyword. -/
def word : Keyword → String
  | and => "AND"
  | or => "OR"
  | not => "NOT"
  | between => "BETWEEN"
  | like => "LIKE"
  | ilike => "ILIKE"
  | true => "TRUE"
  | false => "FALSE"
  | null => "NULL"

/-- Every keyword. -/
def all : List Keyword := [and, or, not, between, like, ilike, true, false, null]

/-- The keyword that a word spells, in any case. -/
def ofWord? (word : String) : Option Keyword := all.find? fun k => sameWord k.word word

end Keyword

/-- What a **token** of a condition says. -/
inductive Lexeme where
  | word (w : String)
  | number (v : Float)
  | quoted (s : String)
  | relation (r : Relation)
  /-- The operator that looks for a pattern, or the one that ignores case. -/
  | matching (ignoreCase : Bool)
  | opening
  | closing
  | openBrace
  | closeBrace
  | comma
deriving BEq, Repr

/-- A token: what it says, its characters, and where it starts, in bytes. -/
structure Token where
  lexeme : Lexeme
  text : String
  offset : Nat
deriving BEq, Repr

/-- The keyword that a token spells. -/
def Token.keyword? (t : Token) : Option Keyword :=
  match t.lexeme with
  | .word w => Keyword.ofWord? w
  | _ => none

/-- The contents of a quoted text after its opening quote, and the number of characters up to and
including the closing one. -/
def readQuoted : List Char → Option (List Char × Nat)
  | '\'' :: '\'' :: rest => (readQuoted rest).map fun (s, count) => ('\'' :: s, count + 2)
  | '\'' :: _ => some ([], 1)
  | c :: rest => (readQuoted rest).map fun (s, count) => (c :: s, count + 1)
  | [] => none

/-- The lexeme at the front of a text, whose first character is given apart and is no blank,
together with the number of characters it takes from the rest of the text. -/
def Lexeme.read (c : Char) (rest : List Char) : Except Cause (Lexeme × Nat) :=
  if c = '\x7b' then .ok (.openBrace, 0)
  else if c = '\x7d' then .ok (.closeBrace, 0)
  else if c = '(' then .ok (.opening, 0)
  else if c = ')' then .ok (.closing, 0)
  else if c = ',' then .ok (.comma, 0)
  else if c = '\'' then
    match readQuoted rest with
    | some (s, count) => .ok (.quoted (String.ofList s), count)
    | none => .error .unclosedQuote
  else if c.isDigit || c == '.' then
    match scanNumeral (c :: rest) with
    | .ok (v, numeral) => .ok (.number v, numeral.length - 1)
    | .error numeral => .error (.invalidNumeral (String.ofList numeral))
  else if isWordStart c then
    let tail := rest.takeWhile isWordPart
    .ok (.word (String.ofList (c :: tail)), tail.length)
  else
    match c, rest with
    | '>', '=' :: _ => .ok (.relation .ge, 1)
    | '<', '=' :: _ => .ok (.relation .le, 1)
    | '!', '=' :: _ => .ok (.relation .ne, 1)
    | '<', '>' :: _ => .ok (.relation .ne, 1)
    | '~', '*' :: _ => .ok (.matching true, 1)
    | '=', _ => .ok (.relation .eq, 0)
    | '<', _ => .ok (.relation .lt, 0)
    | '>', _ => .ok (.relation .gt, 0)
    | '~', _ => .ok (.matching false, 0)
    | _, _ => .error (.unexpectedCharacter c)

/-- The tokens of a text that starts at a place. -/
def Token.scan (offset : Nat) (cs : List Char) : Except Fault (List Token) :=
  scanWith Lexeme.read (fun lexeme lexed offset => ⟨lexeme, String.ofList lexed, offset⟩) offset cs

/-- The tokens of a condition. -/
def Token.ofText (text : List Char) : Except Fault (List Token) := Token.scan 0 text

end Tabular.Condition
