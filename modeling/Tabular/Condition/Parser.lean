import Tabular.Condition.Token

set_option autoImplicit false

/-! # Reading conditions

Logical operators bind in the order `NOT`, `AND`, `OR`; below them stands at most one comparison,
range or match between operands, and an operand is a literal, a column or a condition in
parentheses.

Parentheses and negations may enclose each other up to `nestingLimit` deep. The readers are
defined by recursion on how many levels are left: those of one level are given the reader of
conditions on the next, or none on the last one. A chain of operands with `AND` or `OR` between
them becomes a balanced tree.
-/

namespace Tabular.Condition

/-- A reader of conditions: what it reads off the front of a list of tokens, and what is left. -/
abbrev Reader := List Token → Except Fault (Condition × List Token)

/-- The characters of the next token. -/
def found : List Token → Option String
  | [] => none
  | t :: _ => some t.text

/-- The place of the next token, or of the end of the text. -/
def place (textEnd : Nat) : List Token → Nat
  | [] => textEnd
  | t :: _ => t.offset

/-! ## Balanced chains -/

/-- Joins the elements of a list in pairs; a last one without partner stays as it is. -/
def pairUp {α : Type} (join : α → α → α) : List α → List α
  | a :: b :: rest => join a b :: pairUp join rest
  | rest => rest

theorem length_pairUp {α : Type} (join : α → α → α) :
    ∀ xs : List α, (pairUp join xs).length = (xs.length + 1) / 2
  | [] => by simp [pairUp]
  | [_] => by simp [pairUp]
  | _ :: _ :: rest => by
      rw [pairUp, List.length_cons, length_pairUp join rest, List.length_cons, List.length_cons]
      omega

theorem length_pairUp_le {α : Type} (join : α → α → α) (xs : List α) :
    (pairUp join xs).length ≤ xs.length := by
  rw [length_pairUp]
  omega

/-- Joins the elements of a list, of which there is at least one, into a tree of least height, by
joining neighbours until one is left. -/
def balance {α : Type} (join : α → α → α) (a : α) : List α → α
  | [] => a
  | b :: rest => balance join (join a b) (pairUp join rest)
termination_by rest => rest.length
decreasing_by
  have := length_pairUp_le join rest
  simp only [List.length_cons]
  omega

/-- Reads operands with a keyword between them, and goes on at most once for each entry of
`budget`. -/
def readOperands (word : Keyword) (operand : Reader) :
    List Token → List Token → Except Fault ((Condition × List Condition) × List Token)
  | budget, ts => do
    let (first, rest) ← operand ts
    match budget, rest with
    | _ :: budget, t :: after =>
      if t.keyword? = some word then
        let ((second, others), rest) ← readOperands word operand budget after
        pure ((first, second :: others), rest)
      else pure ((first, []), rest)
    | _, _ => pure ((first, []), rest)

/-- Reads a chain of operands with a keyword between them into a balanced tree. Every further
operand takes a keyword at least, so the tokens themselves are budget enough. -/
def readChain (word : Keyword) (join : Condition → Condition → Condition) (operand : Reader) :
    Reader := fun ts => do
  let ((first, others), rest) ← readOperands word operand ts ts
  pure (balance join first others, rest)

/-! ## Operands -/

/-- A name with one more part, after a space unless it is the first. -/
def joinName (name part : String) : String := if name = "" then part else name ++ " " ++ part

/-- Reads the rest of a column name in braces that were opened at a place. -/
def readName (textEnd opened : Nat) (name : String) : Reader
  | [] => .error (.placed .unclosedBrace opened)
  | t :: rest =>
    match t.lexeme with
    | .closeBrace =>
      if name = "" then .error (.placed .emptyName opened) else .ok (.column name, rest)
    | .openBrace => .error (.placed .braceInName t.offset)
    | .quoted s => readName textEnd opened (joinName name s) rest
    | _ => readName textEnd opened (joinName name t.text) rest

/-- Reads an operand, given the reader of conditions in parentheses. -/
def readOperand (textEnd : Nat) (inner : Option Reader) : Reader
  | [] => .error (.placed (.unexpectedToken none) textEnd)
  | t :: rest =>
    match t.lexeme with
    | .opening =>
      match inner with
      | none => .error (.placed .nestedTooDeeply t.offset)
      | some read => do
        let (c, rest) ← read rest
        match rest with
        | ⟨.closing, _, _⟩ :: rest => pure (c, rest)
        | _ => throw (.placed (.expectedClosing (found rest)) (place textEnd rest))
    | .number v => .ok (.number v, rest)
    | .quoted s => .ok (.text s, rest)
    | .openBrace => readName textEnd t.offset "" rest
    | .word w =>
      match t.keyword? with
      | some .true => .ok (.number 1, rest)
      | some .false => .ok (.number 0, rest)
      | some .null => .ok (.text "", rest)
      | _ => .ok (.column w, rest)
    | _ => .error (.placed (.unexpectedToken (some t.text)) t.offset)

/-! ## Comparisons -/

/-- Reads a keyword that has to stand next. -/
def expectKeyword (textEnd : Nat) (k : Keyword) (ts : List Token) : Except Fault (List Token) :=
  match ts with
  | t :: rest =>
    if t.keyword? = some k then .ok rest
    else .error (.placed (.expectedKeyword k.word (some t.text)) t.offset)
  | [] => .error (.placed (.expectedKeyword k.word none) textEnd)

/-- Reads the bounds of a range. -/
def readBounds (textEnd : Nat) (operand : Reader) (negated : Bool) (target : Condition) :
    Reader := fun ts => do
  let (low, rest) ← operand ts
  let rest ← expectKeyword textEnd .and rest
  let (high, rest) ← operand rest
  pure (.between negated target low high, rest)

/-- Reads an operand and what is asked of it, if anything. -/
def readComparison (textEnd : Nat) (operand : Reader) : Reader := fun ts => do
  let (left, rest) ← operand ts
  match rest with
  | [] => pure (left, [])
  | t :: after =>
    let wildcard (ignoreCase negated : Bool) (ts : List Token) :
        Except Fault (Condition × List Token) := do
      let (right, rest) ← operand ts
      pure (.like ignoreCase negated left right, rest)
    match t.lexeme, t.keyword? with
    | .matching ignoreCase, _ =>
      let (right, rest) ← operand after
      pure (.matching ignoreCase left right, rest)
    | .relation r, _ =>
      let (right, rest) ← operand after
      pure (.compare r left right, rest)
    | _, some .between => readBounds textEnd operand false left after
    | _, some .like => wildcard false false after
    | _, some .ilike => wildcard true false after
    | _, some .not =>
      match after with
      | [] => throw (.placed (.expectedKeyword Keyword.like.word none) textEnd)
      | u :: afterNot =>
        match u.keyword? with
        | some .between => readBounds textEnd operand true left afterNot
        | some .ilike => wildcard true true afterNot
        | _ =>
          let rest ← expectKeyword textEnd .like after
          wildcard false true rest
    | _, _ => pure (left, rest)

/-! ## Logical operators -/

/-- Reads a condition from a reader of its negations and comparisons. -/
def readLogic (negation : Reader) : Reader := readChain .or .or (readChain .and .and negation)

/-- Reads negations of comparisons, given how many more levels may be opened. -/
def readNegation (textEnd : Nat) : Nat → Reader
  | levels, ts =>
    let comparison (inner : Option Reader) : Reader :=
      readComparison textEnd (readOperand textEnd inner)
    match levels with
    | 0 =>
      match ts with
      | t :: _ =>
        if t.keyword? = some .not then .error (.placed .nestedTooDeeply t.offset)
        else comparison none ts
      | [] => comparison none []
    | levels + 1 =>
      match ts with
      | t :: rest =>
        if t.keyword? = some .not then do
          let (c, rest) ← readNegation textEnd levels rest
          pure (.not c, rest)
        else comparison (some (readLogic (readNegation textEnd levels))) ts
      | [] => comparison none []

/-- How deep parentheses and negations may be nested. -/
def nestingLimit : Nat := 256

/-- The condition that the tokens of a text with the given number of bytes write. -/
def ofTokens (tokens : List Token) (textEnd : Nat) : Except Fault Condition := do
  let (c, rest) ← readLogic (readNegation textEnd nestingLimit) tokens
  match rest with
  | [] => pure c
  | t :: _ => throw (.placed (.trailingInput (some t.text)) t.offset)

/-- The condition that a text writes. -/
def ofText (text : List Char) : Except Fault Condition := do
  let tokens ← Token.ofText text
  ofTokens tokens (byteLength text)

end Tabular.Condition
