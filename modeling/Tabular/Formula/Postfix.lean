import Tabular.Fault
import Tabular.Formula.Operator

set_option autoImplicit false

/-! # Postfix sequences

A compiled formula is a sequence of steps for a machine with a stack of numbers: a literal or a
column pushes a number, an operator or a function pops its operands and pushes its result. A
sequence is evaluated on a row through the row's lookup.

Evaluation fails when a step finds too few numbers, or when the sequence does not leave exactly
one. Neither depends on the numbers, so `isBalanced` decides it from the sequence alone.
-/

namespace Tabular.Formula

/-- One **step** of a postfix sequence. -/
inductive Step where
  /-- Push a literal. -/
  | number (v : Float)
  /-- Push the number read in a column. -/
  | column (name : String)
  /-- Pop two numbers and push the result of an operator. -/
  | operator (o : Operator)
  /-- Pop the arguments of a function and push its value. -/
  | function (f : Function)
deriving BEq, Repr

namespace Step

/-- The text of a step. -/
def toText : Step → String
  | number v => showNumber v
  | column name => name
  | operator o => o.symbol
  | function f => f.name

/-- How many numbers a step pops. -/
def pops : Step → Nat
  | number _ | column _ => 0
  | operator _ => 2
  | function f => f.arity

/-- The number that a step pushes, given the numbers it pops, in the order they were pushed. -/
def result (look : Lookup) : Step → List Float → Float
  | number v, _ => v
  | column name, _ => numericValue (look name)
  | operator o, [a, b] => o.apply a b
  | operator _, _ => notANumber
  | function f, arguments => f.apply arguments

/-- The effect of a step on a stack, whose top is the head of the list. -/
def run (look : Lookup) (step : Step) (stack : List Float) : Except Fault (List Float) :=
  let popped := stack.take step.pops
  if popped.length < step.pops then .error ⟨.underflow step.toText, none⟩
  else .ok (step.result look popped.reverse :: stack.drop step.pops)

end Step

/-- The value of a postfix sequence on a row. -/
def evaluate (steps : List Step) (look : Lookup) : Except Fault Float := do
  match ← steps.foldlM (fun stack step => step.run look stack) [] with
  | [value] => pure value
  | stack => throw ⟨.leftover stack.length, none⟩

/-- The number of values on the stack after a sequence, if no step finds too few. -/
def depth? (steps : List Step) : Option Nat :=
  steps.foldlM (fun depth step =>
    if depth < step.pops then none else some (depth - step.pops + 1)) 0

/-- Whether a sequence reduces to exactly one value. -/
def isBalanced (steps : List Step) : Bool := depth? steps == some 1

/-- The columns that a sequence reads, in the order of first use. -/
def columnsOf (steps : List Step) : List String :=
  (steps.filterMap fun step => match step with
    | .column name => some name
    | _ => none).foldl (fun seen name => if name ∈ seen then seen else seen ++ [name]) []

end Tabular.Formula
