import Tabular.Scalar

set_option autoImplicit false

/-! # Operators and functions of formulas

A formula has thirteen binary operators and six functions. An operator has a symbol, a binding
strength and an effect on two numbers; comparisons and logical operators give one or zero. The
effect is total: where arithmetic has no answer the result is not-a-number, and in particular
dividing by zero always gives not-a-number.
-/

namespace Tabular.Formula

/-! ## Operators -/

/-- The binary **operators** of formulas. -/
inductive Operator where
  | add | sub | mul | div | pow
  | gt | lt | ge | le | eq | ne
  | and | or
deriving DecidableEq, Repr

namespace Operator

/-- The symbol that writes an operator. -/
def symbol : Operator → String
  | add => "+"
  | sub => "-"
  | mul => "*"
  | div => "/"
  | pow => "^"
  | gt => ">"
  | lt => "<"
  | ge => ">="
  | le => "<="
  | eq => "=="
  | ne => "!="
  | and => "&&"
  | or => "||"

/-- Every operator. -/
def all : List Operator := [add, sub, mul, div, pow, gt, lt, ge, le, eq, ne, and, or]

/-- The operator that a symbol writes. -/
def ofSymbol? (symbol : String) : Option Operator := all.find? (·.symbol == symbol)

theorem ofSymbol?_symbol (o : Operator) : ofSymbol? o.symbol = some o := by
  cases o <;> decide

/-- The binding strength of an operator; a stronger one binds its operands first. -/
def strength : Operator → Nat
  | pow => 6
  | mul | div => 4
  | add | sub => 3
  | gt | lt | ge | le | eq | ne => 2
  | and => 1
  | or => 0

/-- Only the power operator groups from the right. -/
def groupsRight (o : Operator) : Bool := o == pow

/-- The comparisons and logical operators, which the arithmetic dialect lacks. -/
def isExtended (o : Operator) : Bool := o.strength ≤ 2

/-- What arithmetic lacks are the six comparisons, the conjunction and the disjunction. -/
theorem isExtended_iff (o : Operator) :
    o.isExtended = true ↔ o ∈ [gt, lt, ge, le, eq, ne, and, or] := by
  cases o <;> decide

/-- The effect of an operator on two numbers. -/
def apply (o : Operator) (a b : Float) : Float :=
  match o with
  | add => a + b
  | sub => a - b
  | mul => a * b
  | div => if b == 0 then notANumber else a / b
  | pow => if b.isNaN then notANumber else Float.pow a b
  | gt => flag (b < a)
  | lt => flag (a < b)
  | ge => flag (b ≤ a)
  | le => flag (a ≤ b)
  | eq => flag (a == b)
  | ne => flag (a != b)
  | and => flag (isTrueNumber a && isTrueNumber b)
  | or => flag (isTrueNumber a || isTrueNumber b)

/-- The operator with the longest symbol that a text starts with. -/
def read? : List Char → Option Operator
  | '>' :: '=' :: _ => some ge
  | '<' :: '=' :: _ => some le
  | '=' :: '=' :: _ => some eq
  | '!' :: '=' :: _ => some ne
  | '&' :: '&' :: _ => some and
  | '|' :: '|' :: _ => some or
  | '+' :: _ => some add
  | '-' :: _ => some sub
  | '*' :: _ => some mul
  | '/' :: _ => some div
  | '^' :: _ => some pow
  | '>' :: _ => some gt
  | '<' :: _ => some lt
  | _ => none

end Operator

/-! ## Functions -/

/-- The built-in **functions** of formulas. -/
inductive Function where
  | log | ln | sqrt | abs | min | max
deriving DecidableEq, Repr

namespace Function

/-- The name that calls a function. -/
def name : Function → String
  | log => "log"
  | ln => "ln"
  | sqrt => "sqrt"
  | abs => "abs"
  | min => "min"
  | max => "max"

/-- Every function. -/
def all : List Function := [log, ln, sqrt, abs, min, max]

/-- The function with a name; case matters. -/
def ofName? (name : String) : Option Function := all.find? (·.name == name)

theorem ofName?_name (f : Function) : ofName? f.name = some f := by
  cases f <;> decide

/-- The number of arguments of a function. -/
def arity : Function → Nat
  | min | max => 2
  | _ => 1

/-- The value of a function at a list of arguments. It is not-a-number when their count is wrong,
and for the smaller and the larger of two values also when one of them is not-a-number. -/
def apply : Function → List Float → Float
  | log, [x] => Float.log10 x
  | ln, [x] => Float.log x
  | sqrt, [x] => Float.sqrt x
  | abs, [x] => Float.abs x
  | min, [a, b] => if a.isNaN || b.isNaN then notANumber else if b < a then b else a
  | max, [a, b] => if a.isNaN || b.isNaN then notANumber else if a < b then b else a
  | _, _ => notANumber

end Function

/-! ## Dialects -/

/-- A **dialect** fixes which operators a formula may use. -/
inductive Dialect where
  /-- Arithmetic and functions. -/
  | arithmetic
  /-- Arithmetic, functions, comparisons and logical operators. -/
  | extended
deriving DecidableEq, Repr

/-- Whether a dialect has an operator. -/
def Dialect.admits (d : Dialect) (o : Operator) : Bool := d == .extended || !o.isExtended

end Tabular.Formula
