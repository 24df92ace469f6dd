import Tabular.Formula.Infix
import Tabular.Proofs.Formula.Grammar

set_option autoImplicit false

/-! # A yard reads every phrase

The tokens of a phrase, fed to a yard that expects an operand, leave a yard that expects an
operator. Some operators of the phrase may still wait there, on top of what waited before, and
what is written and waits together is the postfix order of the phrase (`absorbs_of_derives`).

Two conditions on what waits carry the induction. The entries below a phrase of level `l` have to
be **settled**: no operator of strength `l` or more sends any of them out, so the phrase leaves
them alone. The entries that the phrase leaves behind are **overdue**: they are operators that
whatever may follow the phrase sends out.
-/

namespace Tabular.Formula.Yard

/-- Feeds some tokens to a yard, one after the other. -/
def run (d : Dialect) (y : Yard) (ts : List Token) : Except Fault Yard := ts.foldlM (feed d) y

theorem run_cons {d : Dialect} {y z : Yard} {t : Token} (ts : List Token)
    (h : feed d y t = .ok z) : run d y (t :: ts) = run d z ts := by
  rw [run, List.foldlM_cons, h]
  rfl

theorem run_append {d : Dialect} {y z : Yard} {as : List Token} (bs : List Token)
    (h : run d y as = .ok z) : run d y (as ++ bs) = run d z bs := by
  rw [run] at h
  rw [run, List.foldlM_append, h]
  rfl

/-! ## What waits -/

/-- Writes the operators of some waiting entries, the innermost first. -/
def flush : List Waiting → List Step → List Step
  | [], output => output
  | entry :: waiting, output =>
    match entry.operator? with
    | some (o, _) => flush waiting (.operator o :: output)
    | none => flush waiting output

/-- Some waiting entries are **overdue** at a level when they are operators, and every operator
that sends out one of the strength of the level sends out these. -/
def Overdue (l : Nat) (waiting : List Waiting) : Prop :=
  ∀ entry ∈ waiting, ∃ (o : Operator) (s : Nat),
    entry.operator? = some (o, s) ∧ ∀ p : Operator, yields p l = true → yields p s = true

/-- Some waiting entries are **settled** at a level when no operator of this level or a tighter one
sends any of them out. -/
def Settled (l : Nat) (waiting : List Waiting) : Prop :=
  ∀ o : Operator, l ≤ o.strength → ∀ output : List Step,
    drain (yields o) waiting output = (waiting, output)

theorem overdue_nil (l : Nat) : Overdue l [] := by
  intro entry hentry
  cases hentry

/-- What yields to a strength yields to every greater one. -/
theorem yields_mono {o : Operator} {k l : Nat} (h : yields o k = true) (hk : k ≤ l) :
    yields o l = true := by
  rcases Nat.lt_or_eq_of_le hk with hlt | rfl
  -- a greater strength than one that is sent out is greater than that of the operator
  · have hle : o.strength ≤ k := by
      simp only [yields, Bool.or_eq_true, decide_eq_true_eq, Bool.and_eq_true, beq_iff_eq] at h
      omega
    have : o.strength < l := by omega
    simp [yields, this]
  · exact h

/-- An operator that groups from the left sends out its own strength. -/
theorem yields_self {o : Operator} (hpow : o ≠ .pow) : yields o o.strength = true := by
  have hleft : o.groupsRight = false := by simpa [Operator.groupsRight] using hpow
  simp [yields, hleft]

/-- The operators in an exponent and after a sign are powers, which send nothing out. -/
theorem yields_of_five_le {o : Operator} (ho : 5 ≤ o.strength) {s : Nat} (hs : s ≤ 6) :
    yields o s = false := by
  cases o with
  | pow =>
      have hlt : ¬ 6 < s := by omega
      simp [yields, Operator.strength, Operator.groupsRight, hlt]
  | _ => simp [Operator.strength] at ho

/-- No operator has the strength 5, so what sends out a power sends out a sign. -/
theorem yields_five {o : Operator} (h : yields o 6 = true) : yields o 5 = true := by
  cases o with
  | pow => simp [yields, Operator.strength, Operator.groupsRight] at h
  | _ => simp [yields, Operator.strength]

theorem Overdue.mono {k l : Nat} {waiting : List Waiting} (h : Overdue l waiting)
    (hk : ∀ p : Operator, yields p k = true → yields p l = true) : Overdue k waiting := by
  intro entry hentry
  obtain ⟨o, s, hop, hs⟩ := h entry hentry
  exact ⟨o, s, hop, fun p hp => hs p (hk p hp)⟩

theorem Overdue.append {l : Nat} {V W : List Waiting} (hV : Overdue l V) (hW : Overdue l W) :
    Overdue l (V ++ W) := by
  intro entry hentry
  rcases List.mem_append.mp hentry with h | h
  · exact hV entry h
  · exact hW entry h

theorem overdue_singleton {l s : Nat} {entry : Waiting} {o : Operator}
    (hop : entry.operator? = some (o, s)) (hl : l ≤ s) : Overdue l [entry] := by
  intro e he
  rw [List.mem_singleton] at he
  subst he
  exact ⟨o, s, hop, fun p hp => yields_mono hp hl⟩

theorem flush_append (V W : List Waiting) (output : List Step) :
    flush (V ++ W) output = flush W (flush V output) := by
  induction V generalizing output with
  | nil => rfl
  | cons entry V ih =>
      rw [List.cons_append, flush, flush]
      cases entry.operator? with
      | none => exact ih output
      | some p => exact ih _

/-- Overdue entries go out first, before anything that is not. -/
theorem drain_append {l : Nat} {W : List Waiting} {p : Nat → Bool} (hW : Overdue l W)
    (hp : ∀ s, (∀ o : Operator, yields o l = true → yields o s = true) → p s = true)
    (waiting : List Waiting) (output : List Step) :
    drain p (W ++ waiting) output = drain p waiting (flush W output) := by
  induction W generalizing output with
  | nil => rfl
  | cons entry W ih =>
      obtain ⟨o, s, hop, hs⟩ := hW entry (List.mem_cons_self ..)
      have hW' : Overdue l W := fun e he => hW e (List.mem_cons_of_mem _ he)
      rw [List.cons_append, drain, flush, hop]
      simp only [hp s hs, if_true]
      exact ih hW' _

/-- What waits inside a parenthesis goes out when the parenthesis is closed. -/
theorem drain_group {W : List Waiting} (hW : Overdue 0 W) (f : Option Function) (commas n : Nat)
    (waiting : List Waiting) (output : List Step) :
    drain (fun _ => true) (W ++ .group f commas n :: waiting) output =
      (.group f commas n :: waiting, flush W output) := by
  rw [drain_append hW (fun _ _ => rfl)]
  rfl

/-- Where no parenthesis is open everything goes out. -/
theorem drain_overdue {W : List Waiting} (hW : Overdue 0 W) (output : List Step) :
    drain (fun _ => true) W output = ([], flush W output) := by
  have hdrain := drain_append hW (p := fun _ => true) (fun _ _ => rfl) [] output
  rw [List.append_nil] at hdrain
  exact hdrain

theorem Settled.mono {k l : Nat} {waiting : List Waiting} (h : Settled k waiting) (hk : k ≤ l) :
    Settled l waiting :=
  fun o ho => h o (Nat.le_trans hk ho)

theorem settled_nil (l : Nat) : Settled l [] := fun _ _ _ => rfl

/-- No operator is strong enough to move anything at the level of atoms. -/
theorem settled_seven (waiting : List Waiting) : Settled 7 waiting := by
  intro o ho output
  have := Operator.strength_le_six o
  omega

theorem settled_group (l : Nat) (f : Option Function) (commas offset : Nat)
    (waiting : List Waiting) : Settled l (.group f commas offset :: waiting) := fun _ _ _ => rfl

/-- An entry that does not yield settles what is below it. -/
theorem settled_cons {l s : Nat} {entry : Waiting} {o : Operator}
    (hop : entry.operator? = some (o, s))
    (h : ∀ p : Operator, l ≤ p.strength → yields p s = false) (waiting : List Waiting) :
    Settled l (entry :: waiting) := by
  intro p hp output
  rw [drain, hop]
  simp [h p hp]

/-- The right operand of an operator that groups from the left binds more strongly. -/
theorem settled_operator (o : Operator) (waiting : List Waiting) :
    Settled (o.strength + 1) (.operator o :: waiting) := by
  refine settled_cons rfl (fun p hp => ?_) waiting
  have hlt : ¬ p.strength < o.strength := by omega
  have hne : o.strength ≠ p.strength := by omega
  simp [yields, hlt, hne]

theorem settled_power (waiting : List Waiting) : Settled 5 (.operator .pow :: waiting) :=
  settled_cons rfl (fun _ hp => yields_of_five_le hp (by decide)) waiting

theorem settled_negation (waiting : List Waiting) : Settled 5 (.negation :: waiting) :=
  settled_cons rfl (fun _ hp => yields_of_five_le hp (by decide)) waiting

/-! ## One token -/

section feed

variable {d : Dialect} {t : Token} {out : List Step} {w : List Waiting}

/-- A yard that expects an operator expects no operand. -/
theorem operator_ne_operand : (Expecting.operator == Expecting.operand) = false := rfl

theorem feed_number {v : Float} (h : t.lexeme = .number v) :
    feed d ⟨out, w, .operand⟩ t = .ok ⟨.number v :: out, w, .operator⟩ := by
  simp only [feed, h]
  rfl

theorem feed_column {name : String} (h : t.lexeme = .column name) :
    feed d ⟨out, w, .operand⟩ t = .ok ⟨.column name :: out, w, .operator⟩ := by
  simp only [feed, h]
  rfl

theorem feed_opening (h : t.lexeme = .opening) :
    feed d ⟨out, w, .operand⟩ t = .ok ⟨out, .group none 0 t.offset :: w, .operand⟩ := by
  simp only [feed, h]
  rfl

theorem feed_function {f : Function} (h : t.lexeme = .function f) :
    feed d ⟨out, w, .operand⟩ t = .ok ⟨out, w, .arguments f t.offset⟩ := by
  simp only [feed, h]
  rfl

theorem feed_arguments {f : Function} {n : Nat} (h : t.lexeme = .opening) :
    feed d ⟨out, w, .arguments f n⟩ t = .ok ⟨out, .group (some f) 0 n :: w, .operand⟩ := by
  simp only [feed, h]
  rfl

theorem feed_plus (h : t.lexeme = .operator .add) :
    feed d ⟨out, w, .operand⟩ t = .ok ⟨out, w, .operand⟩ := by
  simp only [feed, h]
  rfl

theorem feed_minus (h : t.lexeme = .operator .sub) :
    feed d ⟨out, w, .operand⟩ t = .ok ⟨.number 0 :: out, .negation :: w, .operand⟩ := by
  simp only [feed, h]
  rfl

/-- An operator sends out the overdue entries that yield to it, and waits on top of the rest. -/
theorem feed_operator {o : Operator} {l : Nat} {W : List Waiting} (h : t.lexeme = .operator o)
    (hd : d.admits o = true) (hW : Overdue l W) (hyields : yields o l = true)
    (hw : Settled o.strength w) :
    feed d ⟨out, W ++ w, .operator⟩ t = .ok ⟨flush W out, .operator o :: w, .operand⟩ := by
  have hdrain : drain (yields o) (W ++ w) out = (w, flush W out) := by
    rw [drain_append hW (fun _ hs => hs o hyields), hw o (Nat.le_refl _)]
  simp only [feed, h, pushOperator, operator_ne_operand, hd, if_true, hdrain]
  rfl

/-- A comma ends an argument. -/
theorem feed_comma {f : Function} {commas n : Nat} {W : List Waiting} (h : t.lexeme = .comma)
    (hW : Overdue 0 W) :
    feed d ⟨out, W ++ .group (some f) commas n :: w, .operator⟩ t
      = .ok ⟨flush W out, .group (some f) (commas + 1) n :: w, .operand⟩ := by
  have hdrain := drain_group hW (some f) commas n w out
  simp only [feed, h, pushComma, operator_ne_operand, hdrain]
  rfl

/-- A closing parenthesis ends a group that is no argument list. -/
theorem feed_closing {commas n : Nat} {W : List Waiting} (h : t.lexeme = .closing)
    (hW : Overdue 0 W) :
    feed d ⟨out, W ++ .group none commas n :: w, .operator⟩ t
      = .ok ⟨flush W out, w, .operator⟩ := by
  have hdrain := drain_group hW none commas n w out
  simp only [feed, h, closeGroup, operator_ne_operand, hdrain]
  rfl

/-- A closing parenthesis ends an argument list, when it has the right length. -/
theorem feed_closing_call {f : Function} {commas n : Nat} {W : List Waiting}
    (h : t.lexeme = .closing) (hW : Overdue 0 W) (harity : commas + 1 = f.arity) :
    feed d ⟨out, W ++ .group (some f) commas n :: w, .operator⟩ t
      = .ok ⟨.function f :: flush W out, w, .operator⟩ := by
  have hdrain := drain_group hW (some f) commas n w out
  simp only [feed, h, closeGroup, operator_ne_operand, hdrain, Bool.false_eq_true, if_false,
    if_pos harity]

end feed

/-! ## One phrase -/

/-- **A yard absorbs some tokens** with some steps when reading them, over settled entries, adds
these steps to what is written and overdue. -/
def Absorbs (d : Dialect) (l : Nat) (ts : List Token) (steps : List Step) : Prop :=
  ∀ (out : List Step) (w : List Waiting), Settled l w →
    ∃ (W : List Waiting) (written : List Step),
      run d ⟨out, w, .operand⟩ ts = .ok ⟨written, W ++ w, .operator⟩ ∧
      Overdue l W ∧ flush W written = steps.reverse ++ out

section absorbs

variable {d : Dialect} {l : Nat} {as bs ts : List Token} {sign : Token} {s u : List Step}

/-- A single token that writes one step. -/
theorem absorbs_of_feed {t : Token} {step : Step}
    (h : ∀ (out : List Step) (w : List Waiting),
      feed d ⟨out, w, .operand⟩ t = .ok ⟨step :: out, w, .operator⟩) : Absorbs d l [t] [step] := by
  intro out w _
  refine ⟨[], step :: out, ?_, overdue_nil l, rfl⟩
  rw [run_cons [] (h out w)]
  rfl

/-- What is absorbed at a tight level is absorbed at a looser one. -/
theorem Absorbs.loosen (h : Absorbs d (l + 1) ts s) : Absorbs d l ts s := by
  intro out w hw
  obtain ⟨W, written, hrun, hW, hflush⟩ := h out w (hw.mono (Nat.le_succ l))
  exact ⟨W, written, hrun, hW.mono fun p hp => yields_mono hp (Nat.le_succ l), hflush⟩

/-- An operator between two operands: it sends out what the left one leaves waiting, and the right
one leaves the operator alone. -/
theorem Absorbs.binary {o : Operator} {m n : Nat} (hd : d.admits o = true)
    (hm : l ≤ m) (ho : l ≤ o.strength) (hyields : yields o m = true)
    (hsettled : ∀ w, Settled n (.operator o :: w))
    (hn : ∀ p : Operator, yields p l = true → yields p n = true)
    (ha : Absorbs d m as s) (hsign : sign.lexeme = .operator o) (hb : Absorbs d n bs u) :
    Absorbs d l (as ++ sign :: bs) (s ++ u ++ [.operator o]) := by
  intro out w hw
  obtain ⟨W, first, hrunA, hW, hflushA⟩ := ha out w (hw.mono hm)
  -- the operator sends out all that the left operand left, and nothing below it
  have hfeed : feed d ⟨first, W ++ w, .operator⟩ sign
      = .ok ⟨s.reverse ++ out, .operator o :: w, .operand⟩ := by
    rw [feed_operator hsign hd hW hyields (hw.mono ho), hflushA]
  -- the right operand is read on top of the operator, which is overdue after it
  obtain ⟨V, second, hrunB, hV, hflushB⟩ := hb (s.reverse ++ out) (.operator o :: w) (hsettled w)
  refine ⟨V ++ [.operator o], second, ?_, ?_, ?_⟩
  · calc run d ⟨out, w, .operand⟩ (as ++ sign :: bs)
        = run d ⟨first, W ++ w, .operator⟩ (sign :: bs) := run_append _ hrunA
      _ = run d ⟨s.reverse ++ out, .operator o :: w, .operand⟩ bs := run_cons _ hfeed
      _ = .ok ⟨second, V ++ .operator o :: w, .operator⟩ := hrunB
      _ = .ok ⟨second, (V ++ [.operator o]) ++ w, .operator⟩ := by rw [List.append_cons]
  · exact (hV.mono hn).append (overdue_singleton rfl ho)
  · rw [flush_append, hflushB]
    simp [flush, Waiting.operator?]

/-- A minus sign before an operand writes the zero that the operand is taken from. -/
theorem Absorbs.minus (hsign : sign.lexeme = .operator .sub) (ha : Absorbs d 5 ts s) :
    Absorbs d 5 (sign :: ts) (.number 0 :: s ++ [.operator .sub]) := by
  intro out w _
  obtain ⟨W, written, hrun, hW, hflush⟩ :=
    ha (.number 0 :: out) (.negation :: w) (settled_negation w)
  refine ⟨W ++ [.negation], written, ?_, ?_, ?_⟩
  · calc run d ⟨out, w, .operand⟩ (sign :: ts)
        = run d ⟨.number 0 :: out, .negation :: w, .operand⟩ ts := run_cons _ (feed_minus hsign)
      _ = .ok ⟨written, W ++ .negation :: w, .operator⟩ := hrun
      _ = .ok ⟨written, (W ++ [.negation]) ++ w, .operator⟩ := by rw [List.append_cons]
  · exact hW.append (overdue_singleton rfl (Nat.le_refl 5))
  · rw [flush_append, hflush]
    simp [flush, Waiting.operator?]

/-- A plus sign before an operand leaves no trace. -/
theorem Absorbs.plus (hsign : sign.lexeme = .operator .add) (ha : Absorbs d 5 ts s) :
    Absorbs d 5 (sign :: ts) s := by
  intro out w hw
  obtain ⟨W, written, hrun, hW, hflush⟩ := ha out w hw
  exact ⟨W, written, by rw [run_cons _ (feed_plus hsign), hrun], hW, hflush⟩

/-- A phrase in parentheses leaves nothing waiting. -/
theorem Absorbs.parens {opened closed : Token} (hopened : opened.lexeme = .opening)
    (ha : Absorbs d 0 ts s) (hclosed : closed.lexeme = .closing) :
    Absorbs d l (opened :: (ts ++ [closed])) s := by
  intro out w _
  obtain ⟨W, written, hrun, hW, hflush⟩ :=
    ha out (.group none 0 opened.offset :: w) (settled_group 0 none 0 _ w)
  refine ⟨[], s.reverse ++ out, ?_, overdue_nil l, rfl⟩
  calc run d ⟨out, w, .operand⟩ (opened :: (ts ++ [closed]))
      = run d ⟨out, .group none 0 opened.offset :: w, .operand⟩ (ts ++ [closed]) :=
        run_cons _ (feed_opening hopened)
    _ = run d ⟨written, W ++ .group none 0 opened.offset :: w, .operator⟩ [closed] :=
        run_append _ hrun
    _ = .ok ⟨flush W written, w, .operator⟩ := run_cons _ (feed_closing hclosed hW)
    _ = .ok ⟨s.reverse ++ out, w, .operator⟩ := by rw [hflush]

/-- **A yard absorbs the arguments** of a function when reading them adds their steps to what is
written and overdue, and counts the commas. -/
def AbsorbsAll (d : Dialect) (ts : List Token) (count : Nat) (steps : List Step) : Prop :=
  ∀ (out : List Step) (w : List Waiting) (f : Function) (commas n : Nat),
    ∃ (W : List Waiting) (written : List Step),
      run d ⟨out, .group (some f) commas n :: w, .operand⟩ ts
        = .ok ⟨written, W ++ .group (some f) (commas + count - 1) n :: w, .operator⟩ ∧
      Overdue 0 W ∧ flush W written = steps.reverse ++ out

theorem absorbsAll_last (ha : Absorbs d 0 ts s) : AbsorbsAll d ts 1 s := by
  intro out w f commas n
  exact ha out (.group (some f) commas n :: w) (settled_group 0 _ _ _ w)

theorem absorbsAll_more {comma : Token} {count : Nat} (ha : Absorbs d 0 as s)
    (hcomma : comma.lexeme = .comma) (hb : AbsorbsAll d bs (count + 1) u) :
    AbsorbsAll d (as ++ comma :: bs) (count + 2) (s ++ u) := by
  intro out w f commas n
  obtain ⟨W, first, hrunA, hW, hflushA⟩ :=
    ha out (.group (some f) commas n :: w) (settled_group 0 _ _ _ w)
  obtain ⟨V, second, hrunB, hV, hflushB⟩ := hb (s.reverse ++ out) w f (commas + 1) n
  refine ⟨V, second, ?_, hV, ?_⟩
  · have hcount : commas + 1 + (count + 1) - 1 = commas + (count + 2) - 1 := by omega
    rw [← hcount]
    calc run d ⟨out, .group (some f) commas n :: w, .operand⟩ (as ++ comma :: bs)
        = run d ⟨first, W ++ .group (some f) commas n :: w, .operator⟩ (comma :: bs) :=
          run_append _ hrunA
      _ = run d ⟨flush W first, .group (some f) (commas + 1) n :: w, .operand⟩ bs :=
          run_cons _ (feed_comma hcomma hW)
      _ = _ := by rw [hflushA, hrunB]
  · rw [hflushB]
    simp

/-- A function with its arguments in parentheses leaves nothing waiting. -/
theorem AbsorbsAll.call {word opened closed : Token} {f : Function}
    (hword : word.lexeme = .function f) (hopened : opened.lexeme = .opening)
    (ha : AbsorbsAll d ts f.arity s) (hclosed : closed.lexeme = .closing) :
    Absorbs d l (word :: opened :: (ts ++ [closed])) (s ++ [.function f]) := by
  intro out w _
  -- the group starts without commas, and ends with one fewer than there are arguments
  obtain ⟨W, written, hrun, hW, hflush⟩ := ha out w f 0 word.offset
  have harity : 0 + f.arity - 1 + 1 = f.arity := by
    cases f <;> rfl
  refine ⟨[], .function f :: (s.reverse ++ out), ?_, overdue_nil l, by simp [flush]⟩
  calc run d ⟨out, w, .operand⟩ (word :: opened :: (ts ++ [closed]))
      = run d ⟨out, w, .arguments f word.offset⟩ (opened :: (ts ++ [closed])) :=
        run_cons _ (feed_function hword)
    _ = run d ⟨out, .group (some f) 0 word.offset :: w, .operand⟩ (ts ++ [closed]) :=
        run_cons _ (feed_arguments hopened)
    _ = run d ⟨written, W ++ .group (some f) (0 + f.arity - 1) word.offset :: w, .operator⟩
          [closed] := run_append _ hrun
    _ = .ok ⟨.function f :: flush W written, w, .operator⟩ :=
        run_cons _ (feed_closing_call hclosed hW harity)
    _ = .ok ⟨.function f :: (s.reverse ++ out), w, .operator⟩ := by rw [hflush]

end absorbs

mutual

/-- **A yard absorbs every phrase** with the postfix order of its derivation tree. -/
theorem absorbs_of_derives {d : Dialect} :
    ∀ {l : Nat} {ts : List Token} {a : Tree}, Derives d l ts a → Absorbs d l ts a.steps
  | _, _, _, .number h => absorbs_of_feed fun _ _ => feed_number h
  | _, _, _, .column h => absorbs_of_feed fun _ _ => feed_column h
  | _, _, _, .parens hopened h hclosed => (absorbs_of_derives h).parens hopened hclosed
  | _, _, _, .call hword hopened h harity hclosed => by
      have hall := absorbsAll_of_derivesAll h
      rw [harity] at hall
      exact hall.call hword hopened hclosed
  | _, _, _, .power ha hcaret hb =>
      (absorbs_of_derives ha).binary (by cases d <;> rfl) (by decide) (by decide) (by decide)
        settled_power (fun _ => yields_five) hcaret (absorbs_of_derives hb)
  | _, _, _, .plus hsign h => (absorbs_of_derives h).plus hsign
  | _, _, _, .minus hsign h => (absorbs_of_derives h).minus hsign
  | _, _, _, .binary hpow rfl hd ha hsign hb =>
      (absorbs_of_derives ha).binary hd (Nat.le_refl _) (Nat.le_refl _) (yields_self hpow)
        (settled_operator _) (fun _ hp => yields_mono hp (Nat.le_succ _)) hsign
        (absorbs_of_derives hb)
  | _, _, _, .tighter h => (absorbs_of_derives h).loosen

/-- A yard absorbs all arguments with their postfix orders. -/
theorem absorbsAll_of_derivesAll {d : Dialect} :
    ∀ {ts : List Token} {arguments : List Tree}, DerivesAll d ts arguments →
      AbsorbsAll d ts arguments.length (Tree.stepsAll arguments)
  | _, _, .last h => by
      simpa [Tree.stepsAll] using absorbsAll_last (absorbs_of_derives h)
  | _, _, @DerivesAll.more _ _ _ _ _ (_ :: _) h hcomma hrest =>
      absorbsAll_more (absorbs_of_derives h) hcomma (absorbsAll_of_derivesAll hrest)

end

end Tabular.Formula.Yard
