import Tabular.Formula.Postfix
import Tabular.Formula.Token

set_option autoImplicit false

/-! # From infix tokens to postfix steps

The tokens of a formula are fed one by one to a **yard**: the steps written so far, the operators
and open groups that wait for their operands to be complete, and what has to come next. An
operator that arrives sends the waiting operators that bind at least as strongly to the output; a
closing parenthesis or a comma sends all of them, down to the innermost open group.

A minus where an operand has to stand negates: it writes the literal zero at once and waits as a
subtraction that binds more strongly than `*` and less strongly than `^`. A plus there means
nothing.
-/

namespace Tabular.Formula

/-! ## Yards -/

/-- What waits in a yard for its operands to be complete. -/
inductive Waiting where
  /-- A binary operator. -/
  | operator (o : Operator)
  /-- A negation, whose zero is already written. -/
  | negation
  /-- An open group: the function whose arguments it holds, if any, the commas so far, and where
  the group starts. -/
  | group (function : Option Function) (commas offset : Nat)
deriving BEq, Repr

/-- The operator that a waiting entry writes, with its binding strength. -/
def Waiting.operator? : Waiting → Option (Operator × Nat)
  | operator o => some (o, o.strength)
  | negation => some (.sub, 5)
  | group .. => none

/-- What has to come next. -/
inductive Expecting where
  /-- An operand. -/
  | operand
  /-- An operator, or the end of a group or of the formula. -/
  | operator
  /-- The argument list of a function whose name starts at a place. -/
  | arguments (f : Function) (offset : Nat)
deriving BEq, Repr

/-- A **yard** in the middle of a formula. The output is in reverse order and the innermost
waiting entry comes first. -/
structure Yard where
  output : List Step
  waiting : List Waiting
  expecting : Expecting
deriving BEq, Repr

namespace Yard

/-- The yard before the first token. -/
def start : Yard := ⟨[], [], .operand⟩

/-- Sends waiting operators to the output as long as their strength satisfies `p`, and stops at an
open group. -/
def drain (p : Nat → Bool) : List Waiting → List Step → List Waiting × List Step
  | [], output => ([], output)
  | entry :: waiting, output =>
    match entry.operator? with
    | some (o, strength) =>
      if p strength then drain p waiting (.operator o :: output) else (entry :: waiting, output)
    | none => (entry :: waiting, output)

/-- Whether a waiting operator of a given strength goes out before the operator `o` comes in. -/
def yields (o : Operator) (strength : Nat) : Bool :=
  o.strength < strength || (strength == o.strength && !o.groupsRight)

/-- The yard after an operand. -/
def pushOperand (y : Yard) (step : Step) : Yard :=
  ⟨step :: y.output, y.waiting, .operator⟩

/-- The yard after the opening of a group. -/
def openGroup (y : Yard) (f : Option Function) (offset : Nat) : Yard :=
  ⟨y.output, .group f 0 offset :: y.waiting, .operand⟩

/-- The yard after an operator that stands at a place, or the cause of a fault there. -/
def pushOperator (d : Dialect) (y : Yard) (o : Operator) : Except Cause Yard :=
  if y.expecting == .operand then
    match o with
    | .add => .ok y
    | .sub => .ok ⟨.number 0 :: y.output, .negation :: y.waiting, .operand⟩
    | _ => .error (.missingValue o.symbol)
  else if d.admits o then
    let (waiting, output) := drain (yields o) y.waiting y.output
    .ok ⟨output, .operator o :: waiting, .operand⟩
  else .error (.unavailableOperator o.symbol)

/-- The yard after a comma. -/
def pushComma (y : Yard) : Except Cause Yard :=
  if y.expecting == .operand then .error (.missingValue ",")
  else
    match drain (fun _ => true) y.waiting y.output with
    | (.group (some f) commas offset :: waiting, output) =>
      .ok ⟨output, .group (some f) (commas + 1) offset :: waiting, .operand⟩
    | _ => .error .unexpectedComma

/-- The yard after the closing of a group at a place. -/
def closeGroup (y : Yard) (offset : Nat) : Except Fault Yard :=
  if y.expecting == .operand then .error (.placed (.missingValue ")") offset)
  else
    match drain (fun _ => true) y.waiting y.output with
    | (.group none _ _ :: waiting, output) => .ok ⟨output, waiting, .operator⟩
    | (.group (some f) commas opened :: waiting, output) =>
      if commas + 1 = f.arity then .ok ⟨.function f :: output, waiting, .operator⟩
      else .error (.placed (.wrongArity f.name f.arity (commas + 1)) opened)
    | _ => .error (.placed .unmatchedClosing offset)

/-- Feeds a token to a yard. -/
def feed (d : Dialect) (y : Yard) (t : Token) : Except Fault Yard :=
  match y.expecting with
  | .arguments f opened =>
    if t.lexeme == .opening then .ok (y.openGroup (some f) opened)
    else .error (.placed (.missingArguments f.name) t.offset)
  | _ =>
    let operand (next : Yard) : Except Fault Yard :=
      if y.expecting == .operand then .ok next
      else .error (.placed (.missingOperator t.lexeme.describe) t.offset)
    match t.lexeme with
    | .number v => operand (y.pushOperand (.number v))
    | .column name => operand (y.pushOperand (.column name))
    | .function f => operand ⟨y.output, y.waiting, .arguments f t.offset⟩
    | .opening => operand (y.openGroup none t.offset)
    | .closing => y.closeGroup t.offset
    | .comma => y.pushComma.mapError (.placed · t.offset)
    | .operator o => (y.pushOperator d o).mapError (.placed · t.offset)

/-- The steps of a formula that ends at a place. -/
def finish (y : Yard) (offset : Nat) : Except Fault (List Step) :=
  match y.expecting with
  | .arguments f _ => .error (.placed (.missingArguments f.name) offset)
  | .operand => .error (.placed .unexpectedEnd offset)
  | .operator =>
    match drain (fun _ => true) y.waiting y.output with
    | (.group _ _ opened :: _, _) => .error (.placed .unmatchedOpening opened)
    | (_, output) =>
      if isBalanced output.reverse then .ok output.reverse else .error ⟨.malformed, none⟩

end Yard

/-- The postfix steps of the tokens of a text with the given number of bytes. -/
def stepsOfTokens (d : Dialect) (tokens : List Token) (length : Nat) :
    Except Fault (List Step) := do
  let yard ← tokens.foldlM (Yard.feed d) Yard.start
  yard.finish length

end Tabular.Formula

namespace Tabular

/-- A compiled **formula**: its postfix steps, the text they come from and its dialect. -/
structure Formula where
  steps : List Formula.Step
  source : String
  dialect : Formula.Dialect
deriving BEq, Repr

namespace Formula

/-- Compiles a text in a dialect. -/
def compile (text : String) (dialect : Dialect) : Except Fault Formula := do
  let tokens ← Token.ofText text.toList
  let steps ← stepsOfTokens dialect tokens (byteLength text.toList)
  pure ⟨steps, text, dialect⟩

/-- The columns that a formula reads, in the order of first use. -/
def columns (f : Formula) : List String := columnsOf f.steps

/-- The value of a formula on a row. -/
def value (f : Formula) (look : Lookup) : Except Fault Float := evaluate f.steps look

end Formula

end Tabular
