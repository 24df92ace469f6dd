import Mathlib.Order.Bounds.Defs
import Tabular.Filter
import Tabular.Proofs.Condition.Balance
import Tabular.Proofs.Condition.Compile

set_option autoImplicit false

/-! # How deep conditions are

The height of a condition is the number of steps of its longest branch, a way down to a leaf. What a
text writes is never high. The nodes of a branch that negate or ask something are at most one more
than the parentheses and negations that may enclose each other. Between two of them stand the nodes
of two chains at most, one of `OR` and one of `AND`, and a chain is balanced, so it adds no more
than the logarithm of its length.

Both bounds are cases of one (`Derives.weight_le`), in which a node of a chain weighs nothing, or as
much as the others.
-/

namespace Tabular

namespace Condition

/-! ## Branches -/

/-- A **branch** of a condition: the conditions on a way from it down to a leaf, both included. -/
inductive Branch : Condition → List Condition → Prop
  | leaf {c : Condition} (hc : c.operands = []) : Branch c [c]
  | operand {c d : Condition} {path : List Condition} (hd : d ∈ c.operands) (h : Branch d path) :
      Branch c (c :: path)

/-- Whether a condition negates its operand, or asks something of its operands. -/
def asks : Condition → Bool
  | not _ | compare _ _ _ | between _ _ _ _ | like _ _ _ _ | matching _ _ _ => true
  | or _ _ | and _ _ | column _ | number _ | text _ => false

/-- The **height** of a condition: the number of steps down to its deepest leaf. -/
def height : Condition → Nat
  | or p q | and p q => max p.height q.height + 1
  | not p => p.height + 1
  | compare _ a b | like _ _ a b | matching _ a b => max a.height b.height + 1
  | between _ target low high => max target.height (max low.height high.height) + 1
  | column _ | number _ | text _ => 0

/-- What the heaviest branch of a condition weighs, when the nodes of chains weigh as much as given,
the other inner nodes one, and leaves nothing. -/
def weight (link : Nat) : Condition → Nat
  | or p q | and p q => max (p.weight link) (q.weight link) + link
  | not p => p.weight link + 1
  | compare _ a b | like _ _ a b | matching _ a b => max (a.weight link) (b.weight link) + 1
  | between _ target low high =>
    max (target.weight link) (max (low.weight link) (high.weight link)) + 1
  | column _ | number _ | text _ => 0

theorem height_eq_weight (c : Condition) : c.height = c.weight 1 := by
  induction c <;> simp only [height, weight, *]

section

variable {c : Condition} {path : List Condition}

theorem height_lt_of_mem_operands {d : Condition} (h : d ∈ c.operands) : d.height < c.height := by
  cases c <;> simp only [operands, List.mem_cons, List.not_mem_nil, or_false] at h <;>
    simp only [height] <;> grind

/-- A condition with operands has one that is just one step less high. -/
theorem exists_mem_operands (h : c.operands ≠ []) : ∃ d ∈ c.operands, c.height = d.height + 1 := by
  cases c <;> simp only [operands, ne_eq, not_true_eq_false] at h <;>
    simp only [operands, List.mem_cons, List.not_mem_nil, or_false, height] <;> grind

/-- No branch has more steps than the condition is high. -/
theorem Branch.length_le (h : Branch c path) : path.length ≤ c.height + 1 := by
  induction h with
  | leaf _ => exact Nat.succ_le_succ (Nat.zero_le _)
  | operand hd _ ih => exact Nat.succ_le_succ (Nat.le_trans ih (height_lt_of_mem_operands hd))

/-- Some branch has as many steps as the condition is high. -/
theorem exists_branch (c : Condition) : ∃ path : List Condition,
    Branch c path ∧ path.length = c.height + 1 := by
  induction c using operands_induction with
  | step c ih =>
      by_cases hc : c.operands = []
      · refine ⟨[c], .leaf hc, ?_⟩
        cases c <;> first | rfl | cases hc
      · obtain ⟨d, hd, hheight⟩ := exists_mem_operands hc
        obtain ⟨path, hpath, hlength⟩ := ih d hd
        exact ⟨c :: path, .operand hd hpath, by rw [List.length_cons, hlength, hheight]⟩

/-- The height of a condition is the number of steps of its longest branch. -/
theorem isGreatest_height (c : Condition) :
    IsGreatest {n | ∃ path : List Condition, Branch c path ∧ path.length = n + 1} c.height := by
  refine ⟨exists_branch c, ?_⟩
  rintro n ⟨path, hpath, hlength⟩
  have hle := hpath.length_le
  omega

/-- When the nodes of chains weigh nothing, a branch weighs as much as it has nodes that ask. -/
theorem Branch.countP_asks_le (h : Branch c path) : path.countP asks ≤ c.weight 0 := by
  induction h with
  | @leaf c hc =>
      have hasks : asks c = false := by cases c <;> first | rfl | cases hc
      rw [List.countP_cons_of_neg (by simp [hasks])]
      exact Nat.zero_le _
  | @operand c d path hd _ ih =>
      rw [List.countP_cons]
      cases c <;> simp only [operands, List.mem_cons, List.not_mem_nil, or_false] at hd <;>
        simp only [asks, weight] <;> grind

end

/-! ## The weight of phrases -/

/-- What a phrase of a class weighs at most, when no chain adds more than given and parentheses and
negations enclose each other as deep as given. -/
def weightBound (chain : Nat) : Category → Nat → Nat
  | .operand, nesting => nesting * (2 * chain + 1)
  | .comparison, nesting | .negation, nesting => nesting * (2 * chain + 1) + 1
  | .chain .and, nesting => nesting * (2 * chain + 1) + 1 + chain
  | .chain .or, nesting => (nesting + 1) * (2 * chain + 1)

section

variable {link chain : Nat}

theorem weightBound_mono (cat : Category) {m n : Nat} (h : m ≤ n) :
    weightBound chain cat m ≤ weightBound chain cat n := by
  have hmul := Nat.mul_le_mul_right (2 * chain + 1) h
  have hsucc := Nat.mul_le_mul_right (2 * chain + 1) (Nat.succ_le_succ h)
  cases cat with
  | chain c => cases c <;> simp only [weightBound] <;> omega
  | _ => simp only [weightBound]; omega

/-- A chain adds what it may to what its operands weigh. -/
theorem weightBound_part (c : Connective) (nesting : Nat) :
    weightBound chain c.part nesting + chain = weightBound chain (.chain c) nesting := by
  cases c with
  | and => rfl
  | or =>
      simp only [Connective.part, weightBound, Nat.succ_mul]
      omega

theorem weight_question (q : Question) (a b : Condition) :
    (q.join a b).weight link = max (a.weight link) (b.weight link) + 1 := by
  cases q <;> rfl

theorem weight_join (c : Connective) (a b : Condition) :
    (c.join a b).weight link = max (a.weight link) (b.weight link) + link := by
  cases c <;> rfl

theorem Tree.length_astAll : ∀ as : List Tree, (Tree.astAll as).length = as.length
  | [] => rfl
  | _ :: as => congrArg Nat.succ (length_astAll as)

theorem weight_wordCondition (w : String) : (wordCondition w).weight link = 0 := by
  unfold wordCondition
  split <;> rfl

/-- A balanced chain of conditions adds the logarithm of its length to the heaviest of them. -/
theorem weight_balance_le (c : Connective) {first : Condition} {others : List Condition}
    {m size : Nat} (hfirst : first.weight link ≤ m) (hothers : ∀ d ∈ others, d.weight link ≤ m)
    (hsize : others.length < size) :
    (balance c.join first others).weight link ≤ m + link * Nat.clog 2 size := by
  have hjoin (a b : Condition) :
      (c.join a b).weight link ≤ max (a.weight link) (b.weight link) + link :=
    Nat.le_of_eq (weight_join c a b)
  refine Nat.le_trans (measure_balance_le hjoin first others hfirst hothers) ?_
  exact Nat.add_le_add_left (Nat.mul_le_mul_left link (Nat.clog_mono_right 2 hsize)) m

end

section

variable {link size : Nat}

mutual

/-- **A phrase weighs no more than its nesting allows**, by induction on its derivation. A
disjunction may weigh as much as an operand that is nested one deeper, so parentheses add nothing.
-/
theorem Derives.weight_le : ∀ {cat : Category} {ts : List Token} {a : Tree},
    Derives cat ts a → ts.length ≤ size →
      a.ast.weight link ≤ weightBound (link * Nat.clog 2 size) cat a.nesting
  | _, _, _, .number _, _ => Nat.zero_le _
  | _, _, _, .quoted _, _ => Nat.zero_le _
  | _, _, .word w, .word _, _ => by
      rw [Tree.ast, weight_wordCondition]
      exact Nat.zero_le _
  | _, _, _, .name _ _ _ _, _ => Nat.zero_le _
  | _, _, _, .parens _ ha _, h => by
      simp only [List.length_cons, List.length_append] at h
      exact ha.weight_le (by omega)
  | _, _, _, .plain ha, h => Nat.le_succ_of_le (ha.weight_le h)
  | _, _, .ask q a b, .ask ha _ hb, h => by
      simp only [List.length_append] at h
      have hleft := ha.weight_le (by omega)
      have hright := hb.weight_le (by omega)
      rw [Tree.ast, weight_question]
      refine Nat.succ_le_succ (Nat.max_le.mpr ⟨Nat.le_trans hleft ?_, Nat.le_trans hright ?_⟩)
      · exact weightBound_mono .operand (Nat.le_max_left _ _)
      · exact weightBound_mono .operand (Nat.le_max_right _ _)
  | _, _, .between _ a low high, .between ha _ hlow _ hhigh, h => by
      simp only [List.length_append, List.length_cons] at h
      have htarget := ha.weight_le (by omega)
      have hlower := hlow.weight_le (by omega)
      have hupper := hhigh.weight_le (by omega)
      have hbounds := Nat.le_max_right a.nesting (max low.nesting high.nesting)
      refine Nat.succ_le_succ (Nat.max_le.mpr ⟨Nat.le_trans htarget ?_,
        Nat.max_le.mpr ⟨Nat.le_trans hlower ?_, Nat.le_trans hupper ?_⟩⟩)
      · exact weightBound_mono .operand (Nat.le_max_left _ _)
      · exact weightBound_mono .operand (Nat.le_trans (Nat.le_max_left _ _) hbounds)
      · exact weightBound_mono .operand (Nat.le_trans (Nat.le_max_right _ _) hbounds)
  | _, _, .not a, .not _ ha, h => by
      simp only [List.length_cons] at h
      have hnegated := ha.weight_le (by omega)
      simp only [Tree.ast, weight, Tree.nesting, weightBound, Nat.succ_mul] at hnegated ⊢
      omega
  | _, _, _, .asserted ha _, h => ha.weight_le h
  | _, _, .chain c a as, .chain hchain, h => by
      obtain ⟨hfirst, hothers⟩ := hchain.weight_le h
      rw [Tree.ast, ← weightBound_part]
      refine weight_balance_le c hfirst hothers ?_
      rw [Tree.length_astAll]
      exact Nat.lt_of_lt_of_le hchain.length_lt h

theorem DerivesChain.weight_le : ∀ {c : Connective} {ts : List Token} {a : Tree} {as : List Tree},
    DerivesChain c ts a as → ts.length ≤ size →
      a.ast.weight link ≤ weightBound (link * Nat.clog 2 size) c.part
        (max a.nesting (Tree.nestingAll as)) ∧
      ∀ d ∈ Tree.astAll as, d.weight link ≤ weightBound (link * Nat.clog 2 size) c.part
        (max a.nesting (Tree.nestingAll as))
  | c, _, a, _, .last ha, h => by
      refine ⟨?_, fun d hd => by cases hd⟩
      exact Nat.le_trans (ha.weight_le h) (weightBound_mono c.part (Nat.le_max_left _ _))
  | c, _, a, b :: bs, .more ha _ hbs, h => by
      simp only [List.length_append, List.length_cons] at h
      obtain ⟨hsecond, hothers⟩ := hbs.weight_le (by omega)
      have hnesting := Nat.le_max_right a.nesting (max b.nesting (Tree.nestingAll bs))
      refine ⟨Nat.le_trans (ha.weight_le (by omega))
        (weightBound_mono c.part (Nat.le_max_left _ _)), fun d hd => ?_⟩
      rcases List.mem_cons.mp hd with rfl | hd
      · exact Nat.le_trans hsecond (weightBound_mono c.part hnesting)
      · exact Nat.le_trans (hothers d hd) (weightBound_mono c.part hnesting)

end

end

end Condition

namespace Filter

open Condition

/-- **Compiled filters are shallow.** On every branch of the condition of a filter at most 257 nodes
are negations or ask something, and its height is at most 257 times a little more than twice the
logarithm of the number of tokens of the text. -/
theorem shallow_of_compile {text : String} {f : Filter} (h : compile text = .ok f) :
    ∃ tokens : List Token, Token.ofText text.toList = .ok tokens ∧
      (∀ path : List Condition, f.condition.Branch path → path.countP asks ≤ 257) ∧
      f.condition.height ≤ 257 * (2 * Nat.clog 2 tokens.length + 1) := by
  obtain ⟨tokens, htokens, hread⟩ := bind_eq_ok (ofText_of_compile h)
  obtain ⟨a, ha, hnesting, hast⟩ := exists_derives_of_ofTokens hread
  have hweight (link : Nat) : f.condition.weight link ≤
      257 * (2 * (link * Nat.clog 2 tokens.length) + 1) := by
    rw [← hast]
    exact Nat.le_trans (ha.weight_le (Nat.le_refl _)) (weightBound_mono (.chain .or) hnesting)
  refine ⟨tokens, htokens, fun path hpath => ?_, ?_⟩
  · have hasked := hweight 0
    rw [Nat.zero_mul] at hasked
    exact Nat.le_trans hpath.countP_asks_le hasked
  · have hheight := hweight 1
    rwa [Nat.one_mul, ← height_eq_weight] at hheight

/-- A text with a chain inside another. -/
def chainSample : String := "NOT (A = 1 AND B BETWEEN 2 AND 3 AND C) OR D LIKE 'x%' OR E"

theorem shallow_of_compile_chainSample : ∃ (f : Filter) (tokens : List Token),
    compile chainSample = .ok f ∧ Token.ofText chainSample.toList = .ok tokens ∧
      tokens.length = 20 ∧ f.condition.height = 6 ∧
      (∀ path : List Condition, f.condition.Branch path → path.countP asks ≤ 257) ∧
      f.condition.height ≤ 257 * (2 * Nat.clog 2 tokens.length + 1) := by
  have hheight : (compile chainSample).toOption.map (·.condition.height) = some 6 := by
    decide +kernel
  have hlength : (Token.ofText chainSample.toList).toOption.map List.length = some 20 := by
    decide +kernel
  cases hcompile : compile chainSample with
  | error fault =>
      rw [hcompile] at hheight
      cases hheight
  | ok f =>
      obtain ⟨tokens, htokens, hbranches, hbound⟩ := shallow_of_compile hcompile
      rw [hcompile] at hheight
      rw [htokens] at hlength
      exact ⟨f, tokens, rfl, htokens, Option.some.inj hlength, Option.some.inj hheight,
        hbranches, hbound⟩

end Filter

end Tabular
