import Tabular.Proofs.Formula.Yard

set_option autoImplicit false

/-! # A yard reads nothing but phrases

The converse of `absorbs_of_derives`: if a yard reads some tokens to the end without a fault, the
tokens form a phrase. The proof reads the tokens as a descent through the levels of the grammar
would. At every point of the descent the state of the yard is known, since it has absorbed the
phrases found so far; so the yard itself rules out every token that the grammar has no place for.
-/

namespace Tabular.Formula.Yard

/-- A yard is **complete** when it expects an operator and no group is open in it. -/
structure Complete (y : Yard) : Prop where
  expecting : y.expecting = .operator
  waiting : ∀ entry ∈ y.waiting, entry.operator? ≠ none

/-- A yard **accepts** some tokens when reading them leaves it complete. -/
def Accepts (d : Dialect) (y : Yard) (ts : List Token) : Prop :=
  ∃ z, run d y ts = .ok z ∧ z.Complete

/-- Some tokens **begin** with a phrase of a level that takes in all it can. -/
def Begins (d : Dialect) (l : Nat) (ts : List Token) : Prop :=
  ∃ (as rest : List Token) (a : Tree), ts = as ++ rest ∧ Derives d l as a ∧ Stops l rest

section

variable {d : Dialect} {l : Nat} {y z : Yard} {t : Token} {as ts : List Token} {out : List Step}
  {w W : List Waiting}

theorem accepts_nil : Accepts d y [] ↔ y.Complete := by
  constructor
  · rintro ⟨z, hz, hcomplete⟩
    cases hz
    exact hcomplete
  · intro hcomplete
    exact ⟨y, rfl, hcomplete⟩

theorem Accepts.of_append (h : Accepts d y (as ++ ts)) (hrun : run d y as = .ok z) :
    Accepts d z ts := by
  obtain ⟨last, hend, hcomplete⟩ := h
  rw [run_append ts hrun] at hend
  exact ⟨last, hend, hcomplete⟩

theorem Accepts.of_cons (h : Accepts d y (t :: ts)) (hfeed : feed d y t = .ok z) :
    Accepts d z ts := by
  obtain ⟨last, hend, hcomplete⟩ := h
  rw [run_cons ts hfeed] at hend
  exact ⟨last, hend, hcomplete⟩

/-- A yard that accepts some tokens does not fail at the first one. -/
theorem Accepts.exists_feed (h : Accepts d y (t :: ts)) :
    ∃ z, feed d y t = .ok z ∧ Accepts d z ts := by
  cases hfeed : feed d y t with
  | ok z => exact ⟨z, rfl, h.of_cons hfeed⟩
  | error fault =>
      obtain ⟨last, hend, -⟩ := h
      rw [run, List.foldlM_cons, hfeed] at hend
      cases hend

theorem not_accepts_of_error {fault : Fault} (hfeed : feed d y t = .error fault) :
    ¬ Accepts d y (t :: ts) := by
  intro h
  obtain ⟨z, hz, -⟩ := h.exists_feed
  rw [hfeed] at hz
  cases hz

/-- After the tokens of a phrase the state of the yard is known. -/
theorem Accepts.of_derives {a : Tree} (h : Accepts d ⟨out, w, .operand⟩ (as ++ ts))
    (ha : Derives d l as a) (hw : Settled l w) :
    ∃ (W : List Waiting) (written : List Step), Overdue l W ∧
      Accepts d ⟨written, W ++ w, .operator⟩ ts := by
  obtain ⟨W, written, hrun, hW, -⟩ := absorbs_of_derives ha out w hw
  exact ⟨W, written, hW, h.of_append hrun⟩

/-! ## Where an operand has to stand -/

theorem not_accepts_operand_nil : ¬ Accepts d ⟨out, w, .operand⟩ [] := by
  rw [accepts_nil]
  intro hcomplete
  cases hcomplete.expecting

theorem not_accepts_operand_closing (h : t.lexeme = .closing) :
    ¬ Accepts d ⟨out, w, .operand⟩ (t :: ts) := by
  refine not_accepts_of_error (?_ : feed d _ t = .error (.placed (.missingValue ")") t.offset))
  simp only [feed, h]
  rfl

theorem not_accepts_operand_comma (h : t.lexeme = .comma) :
    ¬ Accepts d ⟨out, w, .operand⟩ (t :: ts) := by
  refine not_accepts_of_error (?_ : feed d _ t = .error (.placed (.missingValue ",") t.offset))
  simp only [feed, h]
  rfl

theorem not_accepts_operand_operator {o : Operator} (h : t.lexeme = .operator o) (hadd : o ≠ .add)
    (hsub : o ≠ .sub) : ¬ Accepts d ⟨out, w, .operand⟩ (t :: ts) := by
  refine not_accepts_of_error (?_ : feed d _ t = .error (.placed (.missingValue o.symbol) t.offset))
  simp only [feed, h]
  cases o with
  | add => exact absurd rfl hadd
  | sub => exact absurd rfl hsub
  | _ => rfl

/-- A function name is followed by the opening of its arguments. -/
theorem Accepts.exists_opening {f : Function} {n : Nat}
    (h : Accepts d ⟨out, w, .arguments f n⟩ ts) :
    ∃ (opened : Token) (rest : List Token), ts = opened :: rest ∧ opened.lexeme = .opening := by
  cases ts with
  | nil =>
      rw [accepts_nil] at h
      cases h.expecting
  | cons t rest =>
      refine ⟨t, rest, rfl, ?_⟩
      obtain ⟨z, hz, -⟩ := h.exists_feed
      cases hlex : t.lexeme with
      | opening => rfl
      | _ =>
          simp only [feed, hlex] at hz
          cases hz

/-! ## Where an operator has to stand -/

/-- An operand is no place for another operand, nor for an operator of another dialect. -/
theorem Accepts.stops (h : Accepts d ⟨out, w, .operator⟩ ts) : Stops 7 ts := by
  cases ts with
  | nil => trivial
  | cons t rest =>
      obtain ⟨z, hz, -⟩ := h.exists_feed
      cases hlex : t.lexeme with
      | operator o =>
          have := Operator.strength_le_six o
          rw [stops_cons_operator hlex]
          omega
      | closing => exact stops_closing hlex 7 rest
      | comma => exact stops_comma hlex 7 rest
      | _ =>
          simp only [feed, hlex] at hz
          cases hz

theorem Accepts.admits {o : Operator} (h : Accepts d ⟨out, w, .operator⟩ (t :: ts))
    (hlex : t.lexeme = .operator o) : d.admits o = true := by
  obtain ⟨z, hz, -⟩ := h.exists_feed
  cases hd : d.admits o with
  | true => rfl
  | false =>
      simp only [feed, hlex, pushOperator, operator_ne_operand, hd] at hz
      cases hz

/-- The end of the tokens leaves no group open. -/
theorem not_accepts_group_nil {f : Option Function} {commas n : Nat} :
    ¬ Accepts d ⟨out, W ++ .group f commas n :: w, .operator⟩ [] := by
  rw [accepts_nil]
  intro hcomplete
  exact hcomplete.waiting (.group f commas n) (by simp) rfl

/-- A group that is no argument list has no comma. -/
theorem not_accepts_comma (h : t.lexeme = .comma) (hW : Overdue 0 W) {commas n : Nat} :
    ¬ Accepts d ⟨out, W ++ .group none commas n :: w, .operator⟩ (t :: ts) := by
  refine not_accepts_of_error (?_ : feed d _ t = .error (.placed .unexpectedComma t.offset))
  simp only [feed, h, pushComma, operator_ne_operand, drain_group hW]
  rfl

/-- Where no group is open, there is nothing to close and nothing to divide. -/
theorem not_accepts_outside (h : t.lexeme = .closing ∨ t.lexeme = .comma) (hW : Overdue 0 W) :
    ¬ Accepts d ⟨out, W ++ [], .operator⟩ (t :: ts) := by
  rw [List.append_nil]
  rcases h with h | h
  · refine not_accepts_of_error (?_ : feed d _ t = .error (.placed .unmatchedClosing t.offset))
    simp only [feed, h, closeGroup, operator_ne_operand, drain_overdue hW]
    rfl
  · refine not_accepts_of_error (?_ : feed d _ t = .error (.placed .unexpectedComma t.offset))
    simp only [feed, h, pushComma, operator_ne_operand, drain_overdue hW]
    rfl

/-- An argument list that is closed has as many arguments as the function takes. -/
theorem Accepts.arity {f : Function} {commas n : Nat} (h : t.lexeme = .closing) (hW : Overdue 0 W)
    (ha : Accepts d ⟨out, W ++ .group (some f) commas n :: w, .operator⟩ (t :: ts)) :
    commas + 1 = f.arity := by
  by_cases harity : commas + 1 = f.arity
  · exact harity
  · refine absurd ha (not_accepts_of_error (?_ : feed d _ t
      = .error (.placed (.wrongArity f.name f.arity (commas + 1)) n)))
    simp only [feed, h, closeGroup, operator_ne_operand, drain_group hW, Bool.false_eq_true,
      if_false, if_neg harity]

end

/-! ## The descent

Each lemma takes for granted that shorter lists of tokens have been dealt with. -/

/-- Every list of fewer than `n` tokens that a yard accepts begins with a phrase. -/
def ReadsBelow (d : Dialect) (n : Nat) : Prop :=
  ∀ ts : List Token, ts.length < n → ∀ (l : Nat) (out : List Step) (w : List Waiting),
    l ≤ 5 → Settled l w → Accepts d ⟨out, w, .operand⟩ ts → Begins d l ts

section descent

variable {d : Dialect} {n : Nat}

/-- The arguments of an open function, up to the parenthesis that closes it. -/
theorem exists_derivesAll (ih : ReadsBelow d n) {f : Function} {k : Nat} {w : List Waiting} :
    ∀ (ts : List Token) (out : List Step) (commas : Nat), ts.length < n →
      Accepts d ⟨out, .group (some f) commas k :: w, .operand⟩ ts →
      ∃ (as rest : List Token) (closed : Token) (arguments : List Tree),
        ts = as ++ closed :: rest ∧ closed.lexeme = .closing ∧ DerivesAll d as arguments ∧
        commas + arguments.length = f.arity := by
  intro ts
  induction hlen : ts.length using Nat.strongRecOn generalizing ts with
  | ind m ihm =>
      intro out commas hn h
      obtain ⟨as, rest, a, rfl, ha, hstops⟩ :=
        ih ts (by omega) 0 out _ (by omega) (settled_group 0 (some f) commas k w) h
      obtain ⟨W, written, hW, hrest⟩ := h.of_derives ha (settled_group 0 (some f) commas k w)
      -- after an argument stands a comma or the closing parenthesis
      cases rest with
      | nil => exact absurd hrest not_accepts_group_nil
      | cons t rest =>
          cases hlex : t.lexeme with
          | closing =>
              exact ⟨as, rest, t, [a], rfl, hlex, .last ha, hrest.arity hlex hW⟩
          | comma =>
              have hmore := hrest.of_cons (feed_comma hlex hW)
              have hlength : rest.length < m := by
                rw [List.length_append, List.length_cons] at hlen
                omega
              obtain ⟨bs, last, closed, arguments, rfl, hclosed, hall, harity⟩ :=
                ihm rest.length hlength rest rfl _ (commas + 1) (by omega) hmore
              refine ⟨as ++ t :: bs, last, closed, a :: arguments, by simp, hclosed,
                .more ha hlex hall, ?_⟩
              rw [List.length_cons]
              omega
          | _ => simp [Stops, hlex] at hstops

/-- An atom, where no operator stands. -/
theorem begins_atom {ts : List Token} {out : List Step} {w : List Waiting}
    (ih : ReadsBelow d ts.length) (h : Accepts d ⟨out, w, .operand⟩ ts)
    (hsign : ∀ t ∈ ts.head?, ∀ o : Operator, t.lexeme ≠ .operator o) : Begins d 7 ts := by
  cases ts with
  | nil => exact absurd h not_accepts_operand_nil
  | cons t ts =>
      cases hlex : t.lexeme with
      | number v =>
          exact ⟨[t], ts, .number v, rfl, .number hlex, (h.of_cons (feed_number hlex)).stops⟩
      | column name =>
          exact ⟨[t], ts, .column name, rfl, .column hlex, (h.of_cons (feed_column hlex)).stops⟩
      | operator o => exact absurd hlex (hsign t rfl o)
      | closing => exact absurd h (not_accepts_operand_closing hlex)
      | comma => exact absurd h (not_accepts_operand_comma hlex)
      | opening =>
          have hinner := h.of_cons (feed_opening hlex)
          have hw := settled_group 0 none 0 t.offset w
          obtain ⟨as, rest, a, rfl, ha, hstops⟩ := ih ts (by simp) 0 out _ (by omega) hw hinner
          obtain ⟨W, written, hW, hrest⟩ := hinner.of_derives ha hw
          -- after the phrase in parentheses stands nothing but the closing one
          cases rest with
          | nil => exact absurd hrest not_accepts_group_nil
          | cons u rest =>
              cases hulex : u.lexeme with
              | closing =>
                  exact ⟨t :: (as ++ [u]), rest, .parens a, by simp, .parens hlex ha hulex,
                    (hrest.of_cons (feed_closing hulex hW)).stops⟩
              | comma => exact absurd hrest (not_accepts_comma hulex hW)
              | _ => simp [Stops, hulex] at hstops
      | function f =>
          obtain ⟨opened, us, rfl, hopened⟩ := (h.of_cons (feed_function hlex)).exists_opening
          have hinner := (h.of_cons (feed_function hlex)).of_cons (feed_arguments hopened)
          have hshort : us.length < (t :: opened :: us).length := by
            rw [List.length_cons, List.length_cons]
            omega
          obtain ⟨as, rest, closed, arguments, rfl, hclosed, hall, harity⟩ :=
            exists_derivesAll ih us out 0 hshort hinner
          have hcall : Derives d 7 (t :: opened :: (as ++ [closed])) (.call f arguments) :=
            .call hlex hopened hall (by omega) hclosed
          refine ⟨_, rest, _, by simp, hcall, ?_⟩
          -- the call is a phrase, so the yard has absorbed it and expects an operator
          have heq : t :: opened :: (as ++ closed :: rest)
              = (t :: opened :: (as ++ [closed])) ++ rest := by simp
          rw [heq] at h
          obtain ⟨W, written, -, hrest⟩ := h.of_derives hcall (settled_seven w)
          exact hrest.stops

/-- A power, where no operator stands. -/
theorem begins_power {ts : List Token} {out : List Step} {w : List Waiting}
    (ih : ReadsBelow d ts.length) (hw : Settled 6 w) (h : Accepts d ⟨out, w, .operand⟩ ts)
    (hsign : ∀ t ∈ ts.head?, ∀ o : Operator, t.lexeme ≠ .operator o) : Begins d 6 ts := by
  obtain ⟨as, rest, a, rfl, ha, hstops⟩ := begins_atom ih h hsign
  obtain ⟨W, written, hW, hrest⟩ := h.of_derives ha (settled_seven w)
  by_cases hcaret : ∃ t us, rest = t :: us ∧ t.lexeme = .operator .pow
  · obtain ⟨t, us, rfl, hlex⟩ := hcaret
    -- the power waits, settled, below its exponent, which may start with signs
    have hexponent := hrest.of_cons (feed_operator hlex (hrest.admits hlex) hW (by decide) hw)
    have hshort : us.length < (as ++ t :: us).length := by
      rw [List.length_append, List.length_cons]
      omega
    obtain ⟨bs, rest, b, rfl, hb, hlast⟩ :=
      ih us hshort 5 _ _ (by omega) (settled_power w) hexponent
    exact ⟨as ++ t :: bs, rest, _, by simp, .power ha hlex hb, hlast.mono (by omega)⟩
  · refine ⟨as, rest, a, rfl, .tighter ha, hstops.change ?_⟩
    intro t us o hrest hlex _
    have hpow : o ≠ .pow := fun heq => hcaret ⟨t, us, hrest, heq ▸ hlex⟩
    have := Operator.strength_le_four hpow
    omega

/-- Signs, and the power they stand before. -/
theorem begins_sign {ts : List Token} {out : List Step} {w : List Waiting}
    (ih : ReadsBelow d ts.length) (hw : Settled 5 w) (h : Accepts d ⟨out, w, .operand⟩ ts) :
    Begins d 5 ts := by
  by_cases hsign : ∀ t ∈ ts.head?, ∀ o : Operator, t.lexeme ≠ .operator o
  · obtain ⟨as, rest, a, rfl, ha, hstops⟩ :=
      begins_power ih (hw.mono (by omega)) h hsign
    exact ⟨as, rest, a, rfl, .tighter ha, hstops.five⟩
  · cases ts with
    | nil => simp at hsign
    | cons t us =>
        obtain ⟨o, hlex⟩ : ∃ o : Operator, t.lexeme = .operator o := by simpa using hsign
        by_cases hadd : o = .add
        · subst hadd
          obtain ⟨as, rest, a, rfl, ha, hstops⟩ :=
            ih us (by simp) 5 out w (by omega) hw (h.of_cons (feed_plus hlex))
          exact ⟨t :: as, rest, .plus a, rfl, .plus hlex ha, hstops⟩
        · by_cases hsub : o = .sub
          · subst hsub
            obtain ⟨as, rest, a, rfl, ha, hstops⟩ :=
              ih us (by simp) 5 _ _ (by omega) (settled_negation w) (h.of_cons (feed_minus hlex))
            exact ⟨t :: as, rest, .minus a, rfl, .minus hlex ha, hstops⟩
          · exact absurd h (not_accepts_operand_operator hlex hadd hsub)

/-- A phrase of a binary level with every operator of this level that follows it. -/
theorem begins_extend {l : Nat} (hl : l ≤ 4) {n : Nat} (ih : ReadsBelow d n) {out : List Step}
    {w : List Waiting} (hw : Settled l w) :
    ∀ (rest as : List Token) (a : Tree), (as ++ rest).length ≤ n → Derives d l as a →
      Stops (l + 1) rest → Accepts d ⟨out, w, .operand⟩ (as ++ rest) → Begins d l (as ++ rest) := by
  intro rest
  induction hlen : rest.length using Nat.strongRecOn generalizing rest with
  | ind m ihm =>
      intro as a hn ha hstops h
      by_cases hsame : ∃ t us o, rest = t :: us ∧ t.lexeme = .operator o ∧ o.strength = l
      -- either the next operator has this level and takes a right operand, or the phrase ends
      · obtain ⟨t, us, o, rfl, hlex, rfl⟩ := hsame
        have hpow : o ≠ .pow := by
          rintro rfl
          simp [Operator.strength] at hl
        obtain ⟨W, written, hW, hrest⟩ := h.of_derives ha hw
        have hd := hrest.admits hlex
        have hright := hrest.of_cons (feed_operator hlex hd hW (yields_self hpow) hw)
        have hlength : us.length < n := by
          rw [List.length_append, List.length_cons] at hn
          omega
        obtain ⟨bs, rest, b, rfl, hb, hlast⟩ :=
          ih us hlength (o.strength + 1) _ _ (by omega) (settled_operator o w) hright
        have heq : as ++ t :: (bs ++ rest) = (as ++ t :: bs) ++ rest := by simp
        have hshort : rest.length < m := by
          rw [List.length_cons, List.length_append] at hlen
          omega
        rw [heq] at h hn ⊢
        exact ihm rest.length hshort rest rfl _ _ hn (.binary hpow rfl hd ha hlex hb) hlast h
      · refine ⟨as, rest, a, rfl, ha, hstops.change ?_⟩
        intro t us o hrest hlex ho
        have hne : o.strength ≠ l := fun heq => hsame ⟨t, us, o, hrest, hlex, heq⟩
        omega

/-- **A yard accepts nothing but phrases.** -/
theorem begins_of_accepts {ts : List Token} :
    ∀ {l : Nat} {out : List Step} {w : List Waiting}, l ≤ 5 → Settled l w →
      Accepts d ⟨out, w, .operand⟩ ts → Begins d l ts := by
  induction hlen : ts.length using Nat.strongRecOn generalizing ts with
  | ind n ihn =>
      intro l out w hl hw h
      have ih : ReadsBelow d ts.length := fun us hus l out w hl hw h =>
        ihn us.length (hlen ▸ hus) rfl hl hw h
      have hsign : Settled 5 w → Begins d 5 ts := fun hw => begins_sign ih hw h
      refine of_level_signs (P := fun l => Settled l w → Begins d l ts) hsign ?_ hl hw
      intro k hk hnext hw
      obtain ⟨as, rest, a, rfl, ha, hstops⟩ := hnext (hw.mono (Nat.le_succ k))
      exact begins_extend hk ih hw rest as a (Nat.le_refl _) (.tighter ha) hstops h

/-- **The yard at the start accepts exactly the phrases of level 0.** -/
theorem accepts_start_iff {ts : List Token} :
    Accepts d start ts ↔ ∃ a : Tree, Derives d 0 ts a := by
  constructor
  · intro h
    obtain ⟨as, rest, a, rfl, ha, hstops⟩ := begins_of_accepts (by omega) (settled_nil 0) h
    obtain ⟨W, written, hW, hrest⟩ := Accepts.of_derives h ha (settled_nil 0)
    cases rest with
    | nil => exact ⟨a, by simpa using ha⟩
    | cons t us =>
        cases hlex : t.lexeme with
        | closing => exact absurd hrest (not_accepts_outside (.inl hlex) hW)
        | comma => exact absurd hrest (not_accepts_outside (.inr hlex) hW)
        | _ => simp [Stops, hlex] at hstops
  · rintro ⟨a, ha⟩
    obtain ⟨W, written, hrun, hW, -⟩ := absorbs_of_derives ha [] [] (settled_nil 0)
    refine ⟨_, hrun, rfl, ?_⟩
    intro entry hentry
    obtain ⟨o, s, hop, -⟩ := hW entry (by simpa using hentry)
    rw [hop]
    exact Option.some_ne_none _

end descent

/-! ## The end of a formula -/

theorem overdue_of_operators {waiting : List Waiting}
    (h : ∀ entry ∈ waiting, entry.operator? ≠ none) : Overdue 0 waiting := by
  intro entry hentry
  obtain ⟨⟨o, s⟩, hop⟩ := Option.ne_none_iff_exists'.mp (h entry hentry)
  exact ⟨o, s, hop, fun p hp => yields_mono hp (Nat.zero_le s)⟩

/-- A complete yard writes all that waits in it, and the result is only checked for its depth. -/
theorem finish_of_complete {y : Yard} (h : y.Complete) (n : Nat) :
    y.finish n = if isBalanced (flush y.waiting y.output).reverse
      then .ok (flush y.waiting y.output).reverse else .error ⟨.malformed, none⟩ := by
  have hdrain := drain_overdue (overdue_of_operators h.waiting) y.output
  simp only [finish, h.expecting, hdrain]

/-- Draining a yard stops at an open group only. -/
theorem drain_all (waiting : List Waiting) (output : List Step) :
    (∀ entry ∈ waiting, entry.operator? ≠ none) ∨
      ∃ (f : Option Function) (commas n : Nat) (rest : List Waiting) (written : List Step),
        drain (fun _ => true) waiting output = (.group f commas n :: rest, written) := by
  induction waiting generalizing output with
  | nil => exact .inl (by simp)
  | cons entry waiting ih =>
      cases hop : entry.operator? with
      | none =>
          cases entry with
          | group f commas n => exact .inr ⟨f, commas, n, waiting, output, rfl⟩
          | operator o => cases hop
          | negation => cases hop
      | some p =>
          rw [drain, hop]
          rcases ih (.operator p.1 :: output) with h | h
          · refine .inl (fun e he => ?_)
            rcases List.mem_cons.mp he with rfl | he
            · rw [hop]
              exact Option.some_ne_none p
            · exact h e he
          · exact .inr h

/-- A yard that is not complete is at fault at a place. -/
theorem finish_of_not_complete {y : Yard} (h : ¬ y.Complete) (n : Nat) :
    ∃ (cause : Cause) (offset : Nat), y.finish n = .error (.placed cause offset) := by
  cases hexp : y.expecting with
  | arguments f k => exact ⟨.missingArguments f.name, n, by simp only [finish, hexp]⟩
  | operand => exact ⟨.unexpectedEnd, n, by simp only [finish, hexp]⟩
  | operator =>
      rcases drain_all y.waiting y.output with hall | ⟨f, commas, k, rest, written, hdrain⟩
      · exact absurd ⟨hexp, hall⟩ h
      · exact ⟨.unmatchedOpening, k, by simp only [finish, hexp, hdrain]⟩

end Tabular.Formula.Yard
