import Tabular.Proofs.Condition.Unambiguous

set_option autoImplicit false

/-! # Compiling conditions

Tokens are read as a condition exactly when they form a disjunction whose parentheses and negations
enclose each other at most `nestingLimit` deep, and then as the condition that the one derivation
tree of these tokens writes (`ofTokens_spec`).
-/

namespace Tabular.Condition

variable {tokens : List Token} {textEnd : Nat}

/-- A disjunction that is not nested too deeply is read as the condition that it writes. -/
theorem ofTokens_of_derives {a : Tree} (h : Derives (.chain .or) tokens a)
    (hnesting : a.nesting ≤ nestingLimit) : ofTokens tokens textEnd = .ok a.ast := by
  have hreads : Reads textEnd (.chain .or) tokens a := reads_of_derives h
  have hread : readLogic (readNegation textEnd nestingLimit) tokens = .ok (a.ast, []) := by
    have hall := hreads nestingLimit [] hnesting (ends_nil _)
    rwa [List.append_nil] at hall
  show readLogic (readNegation textEnd nestingLimit) tokens >>= _ = _
  rw [hread]
  rfl

/-- Only disjunctions that are not nested too deeply are read. -/
theorem exists_derives_of_ofTokens {c : Condition} (h : ofTokens tokens textEnd = .ok c) :
    ∃ a : Tree, Derives (.chain .or) tokens a ∧ a.nesting ≤ nestingLimit ∧ a.ast = c := by
  obtain ⟨⟨d, rest⟩, hread, hrest⟩ := bind_eq_ok h
  have hsound : Sound (.chain .or) nestingLimit (readLogic (readNegation textEnd nestingLimit)) :=
    sound_reader nestingLimit (.chain .or)
  obtain ⟨used, a, rfl, ha, hnesting, rfl⟩ := hsound _ _ _ hread
  cases rest with
  | nil =>
      cases hrest
      rw [List.append_nil]
      exact ⟨a, ha, hnesting, rfl⟩
  | cons t rest => cases hrest

/-- **The readers are a reader of the grammar.** Reading succeeds exactly on the disjunctions in
which no token stands inside more than `nestingLimit` parentheses and negations. Such tokens have
one derivation tree, and the result is the condition that it writes. -/
theorem ofTokens_spec (tokens : List Token) (textEnd : Nat) :
    match ofTokens tokens textEnd with
    | .ok c => ∃ a : Tree, (∀ b : Tree, Derives (.chain .or) tokens b ↔ b = a) ∧
        a.nesting ≤ nestingLimit ∧ c = a.ast
    | .error _ => ¬ ∃ a : Tree, Derives (.chain .or) tokens a ∧ a.nesting ≤ nestingLimit := by
  cases hread : ofTokens tokens textEnd with
  | ok c =>
      obtain ⟨a, ha, hnesting, rfl⟩ := exists_derives_of_ofTokens hread
      refine ⟨a, fun b => ?_, hnesting, rfl⟩
      constructor
      · intro hb
        exact eq_of_derives hb ha
      · rintro rfl
        exact ha
  | error fault =>
      rintro ⟨a, ha, hnesting⟩
      rw [ofTokens_of_derives ha hnesting] at hread
      cases hread

end Tabular.Condition
