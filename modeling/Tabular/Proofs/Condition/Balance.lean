import Mathlib.Data.Nat.Log
import Tabular.Condition.Parser

set_option autoImplicit false

/-! # Balanced chains

A chain of operands is balanced by joining neighbours, round after round, until one is left. What is
joined with what depends on the number of operands only. It is a tree of joins (`joinsOf`) with the
operands for its leaves, from left to right, and what balancing gives is what the joins of this tree
give (`balance_eq_result`). The tree is as high as the logarithm of the number of operands, rounded
up (`height_joinsOf`): the first operand has a partner in every round.

A tree of joins with `OR` holds where one of its operands does, and one with `AND` where all of them
do (`holds_result_or`, `holds_result_and`), however the joins are nested.
-/

namespace Tabular.Condition

/-! ## Trees of joins -/

/-- A tree of **joins** of operands in pairs. -/
inductive Joins (α : Type) where
  | operand (a : α)
  | join (l r : Joins α)
deriving Repr

namespace Joins

variable {α : Type}

/-- The operands of a tree of joins, from left to right. -/
def operands : Joins α → List α
  | operand a => [a]
  | join l r => l.operands ++ r.operands

/-- The number of joins of a tree. -/
def count : Joins α → Nat
  | operand _ => 0
  | join l r => l.count + r.count + 1

/-- How many joins enclose each other in a tree. -/
def height : Joins α → Nat
  | operand _ => 0
  | join l r => max l.height r.height + 1

/-- What is made of the operands when all joins of a tree are. -/
def result (make : α → α → α) : Joins α → α
  | operand a => a
  | join l r => make (l.result make) (r.result make)

/-- A tree has one operand more than joins. -/
theorem length_operands (t : Joins α) : t.operands.length = t.count + 1 := by
  induction t with
  | operand a => rfl
  | join l r ihl ihr =>
      rw [operands, List.length_append, ihl, ihr, count]
      omega

/-- What holds of all operands, and of what is made of any two things of which it holds, holds of the
result. -/
theorem result_induction {P : α → Prop} {make : α → α → α}
    (hmake : ∀ a b, P a → P b → P (make a b)) (t : Joins α) (h : ∀ a ∈ t.operands, P a) :
    P (t.result make) := by
  induction t with
  | operand a => exact h a (List.mem_singleton_self a)
  | join l r ihl ihr =>
      obtain ⟨hl, hr⟩ := List.forall_mem_append.mp h
      exact hmake _ _ (ihl hl) (ihr hr)

/-- When a join costs no more than given, the result costs that for each level of joins, and no more
than the operands besides. -/
theorem measure_result_le {measure : α → Nat} {cost m : Nat} {make : α → α → α}
    (hmake : ∀ a b, measure (make a b) ≤ max (measure a) (measure b) + cost) (t : Joins α)
    (h : ∀ a ∈ t.operands, measure a ≤ m) : measure (t.result make) ≤ m + cost * t.height := by
  induction t with
  | operand a => exact Nat.le_trans (h a (List.mem_singleton_self a)) (Nat.le_add_right _ _)
  | join l r ihl ihr =>
      obtain ⟨hl, hr⟩ := List.forall_mem_append.mp h
      have hleft := Nat.mul_le_mul_left cost (Nat.le_max_left l.height r.height)
      have hright := Nat.mul_le_mul_left cost (Nat.le_max_right l.height r.height)
      have hjoin := hmake (l.result make) (r.result make)
      have hl := ihl hl
      have hr := ihr hr
      rw [result, height, Nat.mul_succ]
      omega

end Joins

/-! ## The tree of a balanced chain -/

section

variable {α β : Type} {join : α → α → α} {join' : β → β → β} {f : α → β}
  (hf : ∀ a b, f (join a b) = join' (f a) (f b))
include hf

theorem map_pairUp : ∀ xs : List α, (pairUp join xs).map f = pairUp join' (xs.map f)
  | [] => rfl
  | [_] => rfl
  | a :: b :: rest => by
      rw [pairUp, List.map_cons, hf, map_pairUp rest, List.map_cons, List.map_cons, pairUp]

/-- What turns one way of joining into another turns a chain balanced in the one way into a chain
balanced in the other. -/
theorem map_balance (a : α) (xs : List α) :
    f (balance join a xs) = balance join' (f a) (xs.map f) := by
  induction a, xs using balance.induct join with
  | case1 a => rw [balance, List.map_nil, balance]
  | case2 a b rest ih => rw [balance, ih, List.map_cons, balance, hf, map_pairUp hf]

end

section

variable {α : Type}

/-- The tree of the joins by which a chain is balanced. -/
def joinsOf (first : α) (others : List α) : Joins α :=
  balance .join (.operand first) (others.map .operand)

/-- **Balancing makes the joins of a tree.** -/
theorem balance_eq_result (make : α → α → α) (first : α) (others : List α) :
    balance make first others = (joinsOf first others).result make := by
  have hothers : (others.map Joins.operand).map (Joins.result make) = others := by
    rw [List.map_map]
    exact List.map_id others
  rw [joinsOf, map_balance (f := Joins.result make) (fun _ _ => rfl), hothers]
  rfl

/-! ### Its operands -/

theorem operands_pairUp : ∀ ts : List (Joins α),
    (pairUp .join ts).flatMap Joins.operands = ts.flatMap Joins.operands
  | [] => rfl
  | [_] => rfl
  | t :: u :: rest => by
      rw [pairUp, List.flatMap_cons, operands_pairUp rest, Joins.operands, List.flatMap_cons,
        List.flatMap_cons, List.append_assoc]

/-- A round of joining leaves the operands as they are, and so do all rounds. -/
theorem operands_balance (t : Joins α) (ts : List (Joins α)) :
    (balance .join t ts).operands = t.operands ++ ts.flatMap Joins.operands := by
  induction t, ts using balance.induct Joins.join with
  | case1 t => rw [balance, List.flatMap_nil, List.append_nil]
  | case2 t u rest ih =>
      rw [balance, ih, Joins.operands, operands_pairUp, List.flatMap_cons, List.append_assoc]

theorem operands_joinsOf (first : α) (others : List α) :
    (joinsOf first others).operands = first :: others := by
  have hothers : (others.map Joins.operand).flatMap Joins.operands = others := by
    rw [List.flatMap_map]
    exact List.flatMap_singleton' others
  rw [joinsOf, operands_balance, hothers]
  rfl

/-! ### Its height -/

theorem height_pairUp_le {m : Nat} : ∀ {ts : List (Joins α)}, (∀ t ∈ ts, t.height ≤ m) →
    ∀ u ∈ pairUp .join ts, u.height ≤ m + 1
  | [], _, u, hu => nomatch hu
  | [t], hts, u, hu => Nat.le_succ_of_le (hts u hu)
  | t :: u :: rest, hts, v, hv => by
      obtain ⟨ht, hts⟩ := List.forall_mem_cons.mp hts
      obtain ⟨hu, hrest⟩ := List.forall_mem_cons.mp hts
      rw [pairUp] at hv
      rcases List.mem_cons.mp hv with rfl | hv
      · exact Nat.succ_le_succ (Nat.max_le.mpr ⟨ht, hu⟩)
      · exact height_pairUp_le hrest v hv

/-- When no tree is higher than the first, balancing them adds the logarithm of their number. Each
round makes the first tree higher by one, the others by one at most, and halves their number. -/
theorem height_balance (t : Joins α) (ts : List (Joins α)) (h : ∀ u ∈ ts, u.height ≤ t.height) :
    (balance .join t ts).height = t.height + Nat.clog 2 (ts.length + 1) := by
  induction t, ts using balance.induct Joins.join with
  | case1 t => rw [balance, List.length_nil, Nat.clog_one_right, Nat.add_zero]
  | case2 t u rest ih =>
      obtain ⟨hu, hrest⟩ := List.forall_mem_cons.mp h
      have hfirst : (t.join u).height = t.height + 1 := by
        rw [Joins.height, Nat.max_eq_left hu]
      -- the first tree has a partner in every round, so it stays the highest
      have hround := ih (fun v hv => hfirst ▸ height_pairUp_le hrest v hv)
      have hhalf : (rest.length + 1 + 1 + 2 - 1) / 2 = (rest.length + 1) / 2 + 1 := by omega
      have hlog : Nat.clog 2 (rest.length + 1 + 1) = Nat.clog 2 ((rest.length + 1) / 2 + 1) + 1 := by
        rw [Nat.clog_of_two_le (by decide) (by omega), hhalf]
      rw [balance, hround, hfirst, length_pairUp, List.length_cons, hlog]
      omega

/-- **A balanced chain is as high as the logarithm of its length**, rounded up. -/
theorem height_joinsOf (first : α) (others : List α) :
    (joinsOf first others).height = Nat.clog 2 (others.length + 1) := by
  have hothers : ∀ t ∈ others.map Joins.operand, t.height ≤ (Joins.operand first).height := by
    intro t ht
    obtain ⟨a, -, rfl⟩ := List.mem_map.mp ht
    exact Nat.le_refl 0
  rw [joinsOf, height_balance _ _ hothers, List.length_map]
  exact Nat.zero_add _

/-! ### What a balanced chain has of its operands -/

variable {make : α → α → α}

/-- What every operand of a chain has, and what is made of any two things that have it, the chain
has. -/
theorem balance_induction {P : α → Prop} (hmake : ∀ a b, P a → P b → P (make a b)) (first : α)
    (others : List α) (hfirst : P first) (hothers : ∀ a ∈ others, P a) :
    P (balance make first others) := by
  rw [balance_eq_result]
  refine (joinsOf first others).result_induction hmake ?_
  rw [operands_joinsOf]
  exact List.forall_mem_cons.mpr ⟨hfirst, hothers⟩

/-- **A balanced chain adds the logarithm of its length**, as many times as a join costs. -/
theorem measure_balance_le {measure : α → Nat} {cost m : Nat}
    (hmake : ∀ a b, measure (make a b) ≤ max (measure a) (measure b) + cost) (first : α)
    (others : List α) (hfirst : measure first ≤ m) (hothers : ∀ a ∈ others, measure a ≤ m) :
    measure (balance make first others) ≤ m + cost * Nat.clog 2 (others.length + 1) := by
  rw [balance_eq_result, ← height_joinsOf first others]
  refine (joinsOf first others).measure_result_le hmake ?_
  rw [operands_joinsOf]
  exact List.forall_mem_cons.mpr ⟨hfirst, hothers⟩

/-- A chain of two operands or more is a join. -/
theorem exists_join_eq_balance (make : α → α → α) (first second : α) (others : List α) :
    ∃ a b : α, balance make first (second :: others) = make a b := by
  have hoperands := operands_joinsOf first (second :: others)
  rw [balance_eq_result]
  cases htree : joinsOf first (second :: others) with
  | operand a =>
      rw [htree] at hoperands
      cases hoperands
  | join l r => exact ⟨_, _, rfl⟩

end

/-! ## Joined conditions -/

/-- Whether a condition **holds** on a row, given how pattern texts are matched against values. -/
def holds (matched : PatternKey → String → Bool) (look : Lookup) (c : Condition) : Bool :=
  (c.value matched look).isTrue

section

variable {matched : PatternKey → String → Bool} {look : Lookup}

/-- However it is nested, a disjunction holds where one of its operands does. -/
theorem holds_result_or (t : Joins Condition) :
    (t.result .or).holds matched look = t.operands.any (holds matched look) := by
  induction t with
  | operand p => rw [Joins.operands, List.any_cons, List.any_nil, Bool.or_false]; rfl
  | join l r ihl ihr =>
      rw [Joins.operands, List.any_append, ← ihl, ← ihr]
      exact isTrue_ofBool _

/-- However it is nested, a conjunction holds where all of its operands do. -/
theorem holds_result_and (t : Joins Condition) :
    (t.result .and).holds matched look = t.operands.all (holds matched look) := by
  induction t with
  | operand p => rw [Joins.operands, List.all_cons, List.all_nil, Bool.and_true]; rfl
  | join l r ihl ihr =>
      rw [Joins.operands, List.all_append, ← ihl, ← ihr]
      exact isTrue_ofBool _

end

section

variable {α : Type}

/-- The joins of a chain that is nested to the left. -/
def leftNested (first : α) (others : List α) : Joins α :=
  others.foldl (fun t a => .join t (.operand a)) (.operand first)

/-- The joins of a chain that is nested to the right. -/
def rightNested (first : α) : List α → Joins α
  | [] => .operand first
  | second :: others => .join (.operand first) (rightNested second others)

theorem operands_leftNested (first : α) (others : List α) :
    (leftNested first others).operands = first :: others := by
  have hjoined : ∀ t : Joins α,
      (others.foldl (fun t a => .join t (.operand a)) t).operands = t.operands ++ others := by
    induction others with
    | nil => exact fun t => (List.append_nil _).symm
    | cons a others ih =>
        intro t
        rw [List.foldl_cons, ih, Joins.operands, Joins.operands, List.append_assoc]
        rfl
  exact hjoined (.operand first)

theorem operands_rightNested (first : α) (others : List α) :
    (rightNested first others).operands = first :: others := by
  induction others generalizing first with
  | nil => rfl
  | cons second others ih =>
      rw [rightNested, Joins.operands, ih]
      rfl

end

/-- **Balancing keeps order and meaning.** One operand alone is left as it is. Otherwise balancing
makes the joins of a tree whose leaves from left to right are the operands, which has one join less
than operands and is as high as the logarithm of their number to base two, rounded up. On every row,
conditions that are balanced with `OR` hold where one of them does, and with `AND` where all of them
do, as they do when they are nested to the left or to the right. -/
theorem balance_spec :
    (∀ {α : Type} (make : α → α → α) (first : α) (others : List α),
      balance make first [] = first ∧
      balance make first others = (joinsOf first others).result make ∧
      (joinsOf first others).operands = first :: others ∧
      (joinsOf first others).count + 1 = (first :: others).length ∧
      (joinsOf first others).height = Nat.clog 2 (first :: others).length) ∧
    ∀ (matched : PatternKey → String → Bool) (look : Lookup) (first : Condition)
      (others : List Condition),
      ((balance .or first others).holds matched look
          = (first :: others).any (holds matched look) ∧
        ((leftNested first others).result .or).holds matched look
          = (first :: others).any (holds matched look) ∧
        ((rightNested first others).result .or).holds matched look
          = (first :: others).any (holds matched look)) ∧
      (balance .and first others).holds matched look
          = (first :: others).all (holds matched look) ∧
        ((leftNested first others).result .and).holds matched look
          = (first :: others).all (holds matched look) ∧
        ((rightNested first others).result .and).holds matched look
          = (first :: others).all (holds matched look) := by
  refine ⟨fun make first others => ⟨?_, balance_eq_result make first others,
    operands_joinsOf first others, ?_, height_joinsOf first others⟩,
    fun matched look first others => ⟨⟨?_, ?_, ?_⟩, ?_, ?_, ?_⟩⟩
  · rw [balance]
  · rw [← operands_joinsOf, Joins.length_operands]
  · rw [balance_eq_result, holds_result_or, operands_joinsOf]
  · rw [holds_result_or, operands_leftNested]
  · rw [holds_result_or, operands_rightNested]
  · rw [balance_eq_result, holds_result_and, operands_joinsOf]
  · rw [holds_result_and, operands_leftNested]
  · rw [holds_result_and, operands_rightNested]

end Tabular.Condition
