import Tabular.Filter
import Tabular.Proofs.Filter.OwnText
import Tabular.Proofs.Formula.Value

set_option autoImplicit false

/-! # What both languages can say

Columns, numbers, comparisons, `AND` and `OR` can be said in both languages: as a condition, whose
value is a scalar, and as a postfix sequence for the stack machine. On a row whose columns have
finite numeric views the two have the same value (`value_agrees`). Every intermediate value is
finite then, so a comparison of conditions never falls back to texts, and conditions and formulas
call the same numbers true.
-/

namespace Tabular

/-! ## The common fragment -/

/-- How two phrases are **linked** in both languages. -/
inductive Link where
  | relation (r : Relation)
  | and
  | or
deriving DecidableEq, Repr

namespace Link

/-- The operator of formulas for a link. -/
def operator : Link → Formula.Operator
  | relation .eq => .eq
  | relation .ne => .ne
  | relation .gt => .gt
  | relation .ge => .ge
  | relation .lt => .lt
  | relation .le => .le
  | and => .and
  | or => .or

/-- The condition that links two others. -/
def join : Link → Condition → Condition → Condition
  | relation r => .compare r
  | and => .and
  | or => .or

end Link

/-- A phrase of the **common fragment**: what can be said in both languages. -/
inductive Common where
  /-- The cell of a column. -/
  | column (name : String)
  /-- A number. -/
  | number (v : Float)
  /-- Two phrases with a link between them. -/
  | linked (l : Link) (a b : Common)
deriving Repr

namespace Common

/-- A phrase as a condition. -/
def condition : Common → Condition
  | column name => .column name
  | number v => .number v
  | linked l a b => l.join a.condition b.condition

/-- A phrase in postfix order. -/
def steps : Common → List Formula.Step
  | column name => [.column name]
  | number v => [.number v]
  | linked l a b => a.steps ++ b.steps ++ [.operator l.operator]

/-- The columns that are named in a phrase. -/
def columns : Common → List String
  | column name => [name]
  | number _ => []
  | linked _ a b => a.columns ++ b.columns

/-- The numbers that are written in a phrase. -/
def numbers : Common → List Float
  | column _ => []
  | number v => [v]
  | linked _ a b => a.numbers ++ b.numbers

/-- The **value** of a phrase on a row. -/
def value (look : Lookup) : Common → Float
  | column name => numericValue (look name)
  | number v => v
  | linked l a b => l.operator.apply (a.value look) (b.value look)

end Common

/-! ## Finite numbers -/

theorem isFinite_flag (b : Bool) : (flag b).isFinite = true := by
  cases b <;> decide +kernel

/-- Finite numbers are compared as numbers. -/
theorem Relation.holds_number (r : Relation) {a b : Float} (ha : a.isFinite = true)
    (hb : b.isFinite = true) : r.holds (.number a) (.number b) = r.holdsNumber a b := by
  simp only [Relation.holds, Scalar.finite?, ha, hb, if_true]

/-- A cell with a finite numeric view is the scalar of this number. -/
theorem Scalar.ofCell_of_finite {cell : Option Cell} {v : Float}
    (hview : cell.bind Cell.number? = some v) (hfinite : v.isFinite = true) :
    Scalar.ofCell cell = .number v := by
  cases cell with
  | none => cases hview
  | some cell =>
      change cell.number? = some v at hview
      cases cell with
      | null => cases hview
      | number w =>
          cases hview
          rfl
      | _ => simp only [Scalar.ofCell, hview, hfinite, if_true]

namespace Link

variable {matched : PatternKey → String → Bool} {look : Lookup} {p q : Condition} {a b : Float}

/-- **One link.** Where two conditions have finite numbers as values, the condition that links them
has the number that the operator makes of these. -/
theorem value_join (l : Link) (hp : p.value matched look = .number a)
    (hq : q.value matched look = .number b) (ha : a.isFinite = true) (hb : b.isFinite = true) :
    (l.join p q).value matched look = .number (l.operator.apply a b) := by
  cases l with
  | relation r =>
      show Scalar.ofBool (r.holds (p.value matched look) (q.value matched look)) = _
      rw [hp, hq, r.holds_number ha hb]
      cases r <;> rfl
  | and =>
      show Scalar.ofBool ((p.value matched look).isTrue && (q.value matched look).isTrue) = _
      rw [hp, hq]
      rfl
  | or =>
      show Scalar.ofBool ((p.value matched look).isTrue || (q.value matched look).isTrue) = _
      rw [hp, hq]
      rfl

/-- What a link makes of two numbers is one or zero. -/
theorem isFinite_apply (l : Link) (a b : Float) : (l.operator.apply a b).isFinite = true := by
  rcases l with (_ | _ | _ | _ | _ | _) | _ | _ <;> exact isFinite_flag _

end Link

/-! ## Agreement -/

namespace Common

/-- The machine puts the value of a phrase on top of any stack. -/
theorem run_steps (s : Common) (look : Lookup) (stack : List Float) :
    Formula.Step.runAll look s.steps stack = .ok (s.value look :: stack) := by
  induction s generalizing stack with
  | column name => exact Formula.Step.runAll_column look name stack
  | number v => exact Formula.Step.runAll_number look v stack
  | linked l a b iha ihb =>
      exact Formula.Step.runAll_binary l.operator (iha stack) (ihb (a.value look :: stack))

/-- The machine ends with the value of a phrase alone. -/
theorem evaluate_steps (s : Common) (look : Lookup) :
    Formula.evaluate s.steps look = .ok (s.value look) := by
  have hrun := s.run_steps look []
  rw [Formula.Step.runAll] at hrun
  rw [Formula.evaluate, hrun]
  rfl

/-- The condition of a phrase has the same value, which is finite, when the numbers of the phrase
are finite and so are the numeric views of its columns. -/
theorem value_condition (s : Common) (matched : PatternKey → String → Bool) {look : Lookup}
    (hnumbers : ∀ v ∈ s.numbers, v.isFinite = true)
    (hcolumns : ∀ name ∈ s.columns, ∃ v : Float,
      (look name).bind Cell.number? = some v ∧ v.isFinite = true) :
    s.condition.value matched look = .number (s.value look) ∧ (s.value look).isFinite = true := by
  induction s with
  | column name =>
      obtain ⟨v, hview, hfinite⟩ := hcolumns name (List.mem_singleton_self name)
      have hvalue : (column name).value look = v := by
        rw [value, numericValue, hview, Option.getD_some]
      rw [hvalue]
      exact ⟨Scalar.ofCell_of_finite hview hfinite, hfinite⟩
  | number v => exact ⟨rfl, hnumbers v (List.mem_singleton_self v)⟩
  | linked l a b iha ihb =>
      have ha := iha (fun v hv => hnumbers v (List.mem_append_left _ hv))
        fun name hname => hcolumns name (List.mem_append_left _ hname)
      have hb := ihb (fun v hv => hnumbers v (List.mem_append_right _ hv))
        fun name hname => hcolumns name (List.mem_append_right _ hname)
      exact ⟨l.value_join ha.1 hb.1 ha.2 hb.2, l.isFinite_apply _ _⟩

/-- **The two languages agree on what both can say.** Take a phrase of columns, finite numbers,
comparisons, `AND` and `OR`, and a row on which each of its columns has a finite numeric view. Then
the stack machine evaluates the postfix order of the phrase, the value of its condition is the
number that the machine ends with, and a filter with this condition accepts the row exactly when
that number is true. -/
theorem value_agrees (s : Common) (look : Lookup) (hnumbers : ∀ v ∈ s.numbers, v.isFinite = true)
    (hcolumns : ∀ name ∈ s.columns, ∃ v : Float,
      (look name).bind Cell.number? = some v ∧ v.isFinite = true) :
    ∃ v : Float, Formula.evaluate s.steps look = .ok v ∧
      (∀ matched : PatternKey → String → Bool, s.condition.value matched look = .number v) ∧
      ∀ f : Filter, f.condition = s.condition → f.accepts look = isTrueNumber v := by
  refine ⟨s.value look, s.evaluate_steps look, fun matched => ?_, fun f hf => ?_⟩
  · exact (s.value_condition matched hnumbers hcolumns).1
  · rw [Filter.accepts, hf, (s.value_condition f.patterns.matched hnumbers hcolumns).1]
    rfl

/-- A comparison of a comparison, and a column that is a condition of its own. -/
def nestedSample : Common :=
  .linked .or
    (.linked (.relation .eq) (.linked (.relation .gt) (.column "a") (.number 1)) (.column "b"))
    (.linked .and (.column "day") (.linked (.relation .le) (.column "b") (.number 0.5)))

/-- A row with a numeric text, a truth value and a date. -/
def typedRow : Lookup :=
  (Row.ofPairs [("a", .text " 2.5"), ("b", .boolean true), ("day", .date 0)]).get?

theorem value_agrees_nestedSample :
    ∃ v : Float, Formula.evaluate nestedSample.steps typedRow = .ok v ∧
      (∀ matched : PatternKey → String → Bool,
        nestedSample.condition.value matched typedRow = .number v) ∧
      ∀ f : Filter, f.condition = nestedSample.condition →
        f.accepts typedRow = isTrueNumber v := by
  refine value_agrees nestedSample typedRow (by decide +kernel) ?_
  have hviews : ∀ name ∈ nestedSample.columns,
      ((typedRow name).bind Cell.number?).any Float.isFinite = true := by
    decide +kernel
  intro name hname
  exact (Option.any_eq_true _ _).mp (hviews name hname)

end Common

end Tabular
