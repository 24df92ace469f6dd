import Tabular.Formula.Infix

set_option autoImplicit false

/-! # Styles

A style rule sets some visual properties of the rows for which its formula is true. The rules are
compiled together; for a row, the properties of all matching rules are merged in order, so the last
matching rule that sets a property decides it.
-/

namespace Tabular

/-- The visual properties that rules can set. -/
structure Appearance where
  color : Option String := none
  stroke : Option String := none
  size : Option Float := none
  label : Option String := none
deriving BEq, Repr

namespace Appearance

/-- Whether no property is set. -/
def isPlain (a : Appearance) : Bool :=
  a.color.isNone && a.stroke.isNone && a.size.isNone && a.label.isNone

/-- The properties of two appearances; where both set one, the second decides. -/
def override (a b : Appearance) : Appearance where
  color := b.color <|> a.color
  stroke := b.stroke <|> a.stroke
  size := b.size <|> a.size
  label := b.label <|> a.label

end Appearance

/-- A **style rule**: its name, the text of its formula and what it sets. -/
structure StyleRule where
  id : String
  formula : String
  appearance : Appearance
deriving BEq, Repr

/-- Why some rules do not compile: the name of the first rule at fault, and its fault. -/
structure StyleFault where
  rule : String
  source : Fault
deriving DecidableEq, Repr

/-- The message of a fault of a rule. -/
def StyleFault.message (fault : StyleFault) : String :=
  s!"style rule '{fault.rule}' does not compile: {fault.source.message}"

/-- Compiled **styles**: rules with their formulas, in order. -/
abbrev Styles := List (StyleRule × Formula)

namespace Styles

/-- Compiles rules. -/
def compile : List StyleRule → Except StyleFault Styles
  | [] => .ok []
  | rule :: rest =>
    match Formula.compile rule.formula .extended with
    | .error fault => .error ⟨rule.id, fault⟩
    | .ok formula =>
      match compile rest with
      | .error fault => .error fault
      | .ok styles => .ok ((rule, formula) :: styles)

/-- Whether the formula of a rule is true for a row. -/
def holds (formula : Formula) (look : Lookup) : Bool :=
  match formula.value look with
  | .ok v => isTrueNumber v
  | .error _ => false

/-- The rules that match a row, in order. -/
def matchingRules (styles : Styles) (look : Lookup) : List StyleRule :=
  (styles.filter fun rule => holds rule.2 look).map (·.1)

/-- The names of the rules that match a row, in order. -/
def matchingIds (styles : Styles) (look : Lookup) : List String :=
  (styles.matchingRules look).map (·.id)

/-- The appearance of a row. -/
def resolve (styles : Styles) (look : Lookup) : Appearance :=
  (styles.matchingRules look).foldl (fun a rule => a.override rule.appearance) {}

end Styles

end Tabular
