set_option autoImplicit false

/-! # Faults

A text of one of the two languages can be at fault in three ways: its characters form no tokens,
its tokens form no sentence, or (which no compiled text ever shows) its compiled form cannot be
evaluated. A **fault** is a cause together with a place, the number of bytes before it. Causes
are data; their wording is in `Cause.text` and `Fault.message` alone.
-/

namespace Tabular

/-- Where in the handling of a text a fault arises. -/
inductive Phase where
  | lexical
  | grammatical
  | evaluation
deriving DecidableEq, Repr

/-- Why a text is at fault. A token that is quoted in a message is given by its characters, and
the end of the text by `none`. -/
inductive Cause where
  /-- A character that starts no token. -/
  | unexpectedCharacter (c : Char)
  /-- A character that starts only longer operators. -/
  | incompleteOperator (c : Char)
  /-- Characters that start a numeral but are none. -/
  | invalidNumeral (text : String)
  /-- A quoted text without its closing quote. -/
  | unclosedQuote
  /-- A column name without its closing brace. -/
  | unclosedBrace
  /-- A blank formula. -/
  | blankFormula
  /-- Braces in a formula with nothing but blanks between them. -/
  | blankName
  /-- Braces in a predicate with no name between them. -/
  | emptyName
  /-- An opening brace inside a column name. -/
  | braceInName
  /-- Parentheses and negations nested beyond the limit. -/
  | nestedTooDeeply
  /-- Another token where a keyword has to stand. -/
  | expectedKeyword (word : String) (found : Option String)
  /-- Another token where a parenthesis has to be closed. -/
  | expectedClosing (found : Option String)
  /-- A token that starts no operand. -/
  | unexpectedToken (found : Option String)
  /-- An operator of no meaning after an operand of a predicate. -/
  | unexpectedOperator (symbol : String)
  /-- A token after a complete predicate. -/
  | trailingInput (found : Option String)
  /-- An operand right after an operand, as described. -/
  | missingOperator (before : String)
  /-- A token where an operand has to stand. -/
  | missingValue (before : String)
  /-- A function name without an argument list. -/
  | missingArguments (function : String)
  /-- A function with the wrong number of arguments. -/
  | wrongArity (function : String) (arity given : Nat)
  /-- An operator that the dialect does not have. -/
  | unavailableOperator (symbol : String)
  /-- A comma outside an argument list. -/
  | unexpectedComma
  /-- An opening parenthesis that is never closed. -/
  | unmatchedOpening
  /-- A closing parenthesis that was never opened. -/
  | unmatchedClosing
  /-- A formula that ends where an operand has to stand. -/
  | unexpectedEnd
  /-- A postfix sequence that does not reduce to one value. -/
  | malformed
  /-- A step of a postfix sequence that finds too few values. -/
  | underflow (what : String)
  /-- A postfix sequence that leaves none or several values. -/
  | leftover (count : Nat)
deriving DecidableEq, Repr

namespace Cause

/-- The phase in which a cause arises. -/
def phase : Cause → Phase
  | unexpectedCharacter _ | incompleteOperator _ | invalidNumeral _ | unclosedQuote
  | unclosedBrace | blankFormula | blankName => .lexical
  | underflow _ | leftover _ => .evaluation
  | _ => .grammatical

/-- A token as a message quotes it. -/
def quoteFound : Option String → String
  | some token => s!"'{token}'"
  | none => "end of input"

/-- The wording of a cause. -/
def text : Cause → String
  | unexpectedCharacter c => s!"unexpected character '{c}'"
  | incompleteOperator c => s!"unexpected operator '{c}'"
  | invalidNumeral t => s!"invalid number '{t}'"
  | unclosedQuote => "unclosed string literal"
  | unclosedBrace => "unclosed '\x7b' in column reference"
  | blankFormula => "empty expression"
  | blankName | emptyName => "empty column reference"
  | braceInName => "unexpected '\x7b' in column reference"
  | nestedTooDeeply => "filter nested too deeply"
  | expectedKeyword word found => s!"expected {word} but got {quoteFound found}"
  | expectedClosing found => s!"expected ')' but got {quoteFound found}"
  | unexpectedToken found => s!"unexpected token {quoteFound found}"
  | unexpectedOperator symbol => s!"unexpected operator {quoteFound symbol}"
  | trailingInput found => s!"unexpected trailing input {quoteFound found}"
  | missingOperator before => s!"expected an operator before {before}"
  | missingValue before => s!"expected a value before '{before}'"
  | missingArguments name => s!"expected '(' after '{name}'"
  | wrongArity name arity given =>
    let noun := if arity = 1 then "argument" else "arguments"
    s!"'{name}' takes {arity} {noun} but got {given}"
  | unavailableOperator symbol =>
    s!"operator '{symbol}' is not available in arithmetic expressions"
  | unexpectedComma => "unexpected ','"
  | unmatchedOpening => "mismatched '('"
  | unmatchedClosing => "mismatched ')'"
  | unexpectedEnd => "unexpected end of expression"
  | malformed => "malformed expression"
  | underflow what => s!"stack underflow at '{what}'"
  | leftover count => s!"expected one result but {count} values remain"

end Cause

/-- A **fault** in a text: its cause, and its place in bytes when one token is to blame. -/
structure Fault where
  cause : Cause
  offset : Option Nat
deriving DecidableEq, Repr

namespace Fault

/-- The fault of a cause at a place. -/
def placed (cause : Cause) (offset : Nat) : Fault := ⟨cause, some offset⟩

/-- The message of a fault. -/
def message (fault : Fault) : String :=
  match fault.cause.phase with
  | .evaluation => s!"expression error: {fault.cause.text}"
  | _ =>
    match fault.offset with
    | some offset => s!"{fault.cause.text} at offset {offset}"
    | none => fault.cause.text

end Fault

/-- The parts of a computation that succeeds succeed. -/
theorem bind_eq_ok {ε α β : Type} {x : Except ε α} {f : α → Except ε β} {r : β}
    (h : x >>= f = .ok r) : ∃ a, x = .ok a ∧ f a = .ok r := by
  cases x with
  | error fault => cases h
  | ok a => exact ⟨a, rfl, h⟩

end Tabular
