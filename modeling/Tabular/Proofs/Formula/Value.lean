import Tabular.Proofs.Formula.Grammar

set_option autoImplicit false

/-! # The value of a derivation tree

A tree has a value on a row, by recursion on the tree. The postfix order of a tree is a program
for the stack machine that computes this value: run on any stack, it puts the value on top and
leaves the rest alone (`run_steps`). So the machine never finds too few numbers on the way and
ends with exactly one, which is what `isBalanced` checks without running anything.
-/

namespace Tabular.Formula

mutual

/-- The value of a tree on a row. A minus sign takes its operand from zero. -/
def Tree.value (look : Lookup) : Tree → Float
  | .number v => v
  | .column name => numericValue (look name)
  | .parens a => a.value look
  | .call f arguments => f.apply (Tree.values look arguments)
  | .plus a => a.value look
  | .minus a => Operator.sub.apply 0 (a.value look)
  | .binary o a b => o.apply (a.value look) (b.value look)

/-- The values of some trees, in order. -/
def Tree.values (look : Lookup) : List Tree → List Float
  | [] => []
  | a :: rest => a.value look :: Tree.values look rest

end

theorem Tree.length_values (look : Lookup) (arguments : List Tree) :
    (Tree.values look arguments).length = arguments.length := by
  induction arguments with
  | nil => rfl
  | cons a rest ih => simp [Tree.values, ih]

/-! ## Single steps -/

namespace Step

/-- The effect of some steps on a stack, one after the other. -/
def runAll (look : Lookup) (steps : List Step) (stack : List Float) : Except Fault (List Float) :=
  steps.foldlM (fun stack step => step.run look stack) stack

theorem runAll_append {look : Lookup} {as : List Step} {stack next : List Float} (bs : List Step)
    (h : runAll look as stack = .ok next) :
    runAll look (as ++ bs) stack = runAll look bs next := by
  rw [runAll] at h
  rw [runAll, List.foldlM_append, h]
  rfl

theorem runAll_number (look : Lookup) (v : Float) (stack : List Float) :
    runAll look [.number v] stack = .ok (v :: stack) := rfl

theorem runAll_column (look : Lookup) (name : String) (stack : List Float) :
    runAll look [.column name] stack = .ok (numericValue (look name) :: stack) := rfl

/-- An operator finds its right operand on top and its left one below. -/
theorem runAll_operator (look : Lookup) (o : Operator) (a b : Float) (stack : List Float) :
    runAll look [.operator o] (b :: a :: stack) = .ok (o.apply a b :: stack) := rfl

/-- An operator after the steps of its operands computes its value from theirs. -/
theorem runAll_binary {look : Lookup} {as bs : List Step} {a b : Float} (o : Operator)
    {stack : List Float} (ha : runAll look as stack = .ok (a :: stack))
    (hb : runAll look bs (a :: stack) = .ok (b :: a :: stack)) :
    runAll look (as ++ bs ++ [.operator o]) stack = .ok (o.apply a b :: stack) := by
  calc runAll look (as ++ bs ++ [.operator o]) stack
      = runAll look (as ++ (bs ++ [.operator o])) stack := by rw [List.append_assoc]
    _ = runAll look (bs ++ [.operator o]) (a :: stack) := runAll_append _ ha
    _ = runAll look [.operator o] (b :: a :: stack) := runAll_append _ hb
    _ = .ok (o.apply a b :: stack) := runAll_operator look o a b stack

/-- A function finds its last argument on top. -/
theorem runAll_function (look : Lookup) {f : Function} {arguments : List Float}
    (h : arguments.length = f.arity) (stack : List Float) :
    runAll look [.function f] (arguments.reverse ++ stack) = .ok (f.apply arguments :: stack) := by
  have htake : (arguments.reverse ++ stack).take f.arity = arguments.reverse := by
    rw [← h, ← List.length_reverse, List.take_left]
  have hdrop : (arguments.reverse ++ stack).drop f.arity = stack := by
    rw [← h, ← List.length_reverse, List.drop_left]
  have henough : ¬ arguments.reverse.length < f.arity := by simp [h]
  show (Step.run look (.function f) (arguments.reverse ++ stack) >>= fun s => .ok s) = _
  simp only [run, pops, htake, hdrop, henough, if_false, result, List.reverse_reverse]
  rfl

/-- A step that finds enough values replaces those it pops by one. -/
theorem depth_of_run {look : Lookup} {step : Step} {stack next : List Float}
    (h : step.run look stack = .ok next) :
    ¬ stack.length < step.pops ∧ next.length = stack.length - step.pops + 1 := by
  simp only [run] at h
  split at h
  · cases h
  · next henough =>
      rw [List.length_take] at henough
      cases h
      refine ⟨by omega, ?_⟩
      rw [List.length_cons, List.length_drop]

/-- The depth of a sequence is the number of values that running it leaves. -/
theorem depth_of_runAll {look : Lookup} {steps : List Step} {stack last : List Float}
    (h : runAll look steps stack = .ok last) :
    steps.foldlM (fun depth step =>
      if depth < step.pops then none else some (depth - step.pops + 1)) stack.length
      = some last.length := by
  induction steps generalizing stack with
  | nil =>
      cases h
      rfl
  | cons step steps ih =>
      rw [runAll, List.foldlM_cons] at h
      cases hstep : step.run look stack with
      | error fault =>
          rw [hstep] at h
          cases h
      | ok next =>
          rw [hstep] at h
          obtain ⟨henough, hlength⟩ := depth_of_run hstep
          rw [List.foldlM_cons, if_neg henough, ← hlength]
          exact ih h

end Step

/-! ## Whole trees -/

open Formula.Step

mutual

/-- **The postfix order of a tree computes its value** on top of any stack. -/
theorem run_steps {d : Dialect} (look : Lookup) :
    ∀ {l : Nat} {ts : List Token} {a : Tree}, Derives d l ts a → ∀ stack : List Float,
      runAll look a.steps stack = .ok (a.value look :: stack)
  | _, _, _, .number _, stack => runAll_number look _ stack
  | _, _, _, .column _, stack => runAll_column look _ stack
  | _, _, _, .parens _ h _, stack => run_steps look h stack
  | _, _, _, .call _ _ h harity _, stack => by
      rw [Tree.steps, runAll_append _ (run_stepsAll look h stack), Tree.value]
      exact runAll_function look ((Tree.length_values look _).trans harity) stack
  | _, _, _, .plus _ h, stack => run_steps look h stack
  | _, _, _, .minus _ h, stack =>
      runAll_binary .sub (runAll_number look 0 stack) (run_steps look h (0 :: stack))
  | _, _, _, .power ha _ hb, stack =>
      runAll_binary .pow (run_steps look ha stack) (run_steps look hb _)
  | _, _, _, .binary (o := o) _ _ _ ha _ hb, stack =>
      runAll_binary o (run_steps look ha stack) (run_steps look hb _)
  | _, _, _, .tighter h, stack => run_steps look h stack

/-- The postfix orders of the arguments leave their values, the last one on top. -/
theorem run_stepsAll {d : Dialect} (look : Lookup) :
    ∀ {ts : List Token} {arguments : List Tree}, DerivesAll d ts arguments →
      ∀ stack : List Float, runAll look (Tree.stepsAll arguments) stack
        = .ok ((Tree.values look arguments).reverse ++ stack)
  | _, _, .last h, stack => by
      rw [Tree.stepsAll, Tree.stepsAll, List.append_nil]
      exact run_steps look h stack
  | _, _, .more h _ hrest, stack => by
      rw [Tree.stepsAll, runAll_append _ (run_steps look h stack), run_stepsAll look hrest]
      simp [Tree.values]

end

variable {d : Dialect} {ts : List Token} {a : Tree}

/-- The machine evaluates the postfix order of a tree to its value. -/
theorem evaluate_steps (h : Derives d 0 ts a) (look : Lookup) :
    evaluate a.steps look = .ok (a.value look) := by
  have hrun := run_steps look h []
  rw [runAll] at hrun
  rw [evaluate, hrun]
  rfl

/-- The postfix order of a tree reduces to one value. -/
theorem isBalanced_steps (h : Derives d 0 ts a) : isBalanced a.steps = true := by
  have hdepth := depth_of_runAll (run_steps (fun _ => none) h [])
  simpa [isBalanced, depth?] using hdepth

end Tabular.Formula
