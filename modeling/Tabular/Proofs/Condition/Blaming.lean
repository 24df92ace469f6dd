import Tabular.Proofs.Condition.Tiling

set_option autoImplicit false

/-! # What a condition is blamed for

A reader of conditions goes forward in its tokens and blames one of them, or the end of the text, for
whatever is not as it should be. So its faults are at places of the tokens that it is given, and what
it leaves is a rest of them (`KeepsTo`). Readers are put together from others, each of which starts
where the one before it has stopped, so this goes from the parts of a reader to the whole.
-/

namespace Tabular.Condition

/-! ## Readings that keep to their tokens -/

/-- A computation that leaves some tokens **keeps to** those it is given: what it leaves is a rest of
them, and a fault is at one of their places. -/
def KeepsTo {α : Type} (left : α → List Token) (textEnd : Nat) (ts : List Token)
    (r : Except Fault α) : Prop :=
  Meets (fun x => left x <:+ ts) (Fault.IsAt (· ∈ places textEnd ts)) r

/-- A reader **keeps to its tokens**. -/
def Reader.Keeps {α : Type} (textEnd : Nat) (read : List Token → Except Fault (α × List Token)) :
    Prop :=
  ∀ ts : List Token, KeepsTo Prod.snd textEnd ts (read ts)

theorem places_subset {textEnd : Nat} {us ts : List Token} (h : us <:+ ts) :
    places textEnd us ⊆ places textEnd ts :=
  List.append_subset.mpr
    ⟨List.subset_append_of_subset_left _ (List.map_subset Token.offset h.subset),
      List.subset_append_right ..⟩

/-- The next place of a reader is one of its places. -/
theorem place_mem_places (textEnd : Nat) (ts : List Token) : place textEnd ts ∈ places textEnd ts := by
  cases ts with
  | nil => exact List.mem_cons_self
  | cons t ts => exact List.mem_cons_self

section

variable {α β : Type} {left : α → List Token} {left' : β → List Token} {textEnd : Nat}
  {us ts : List Token} {r : Except Fault α} {f : α → Except Fault β}

theorem keepsTo_ok {x : α} (h : left x <:+ ts) : KeepsTo left textEnd ts (.ok x) := h

theorem keepsTo_error {cause : Cause} {o : Nat} (hphase : cause.phase ≠ .evaluation)
    (ho : o ∈ places textEnd ts) : KeepsTo left textEnd ts (.error (.placed cause o)) :=
  Fault.isAt_placed hphase ho

/-- What keeps to a rest of some tokens keeps to the tokens. -/
theorem KeepsTo.of_suffix (h : us <:+ ts) (hr : KeepsTo left textEnd us r) :
    KeepsTo left textEnd ts r :=
  hr.mono (fun _ hleft => hleft.trans h) fun _ hfault =>
    hfault.mono fun _ ho => places_subset h ho

theorem KeepsTo.bind (hr : KeepsTo left textEnd ts r)
    (hf : ∀ x, KeepsTo left' textEnd (left x) (f x)) : KeepsTo left' textEnd ts (r >>= f) :=
  Meets.bind hr fun x hx => (hf x).of_suffix hx

end

/-! ## Operands -/

variable {textEnd : Nat}

/-- A name in braces is blamed for one of its tokens, for the brace that opens it or for the end of
the text. -/
theorem meets_readName (opened : Nat) (ts : List Token) (name : String) :
    Meets (fun x => x.2 <:+ ts) (Fault.IsAt (· ∈ opened :: places textEnd ts))
      (readName textEnd opened name ts) := by
  induction ts generalizing name with
  | nil => exact Fault.isAt_placed nofun List.mem_cons_self
  | cons t ts ih =>
      have hlater : ∀ name : String, Meets (fun x => x.2 <:+ t :: ts)
          (Fault.IsAt (· ∈ opened :: places textEnd (t :: ts))) (readName textEnd opened name ts) := by
        intro name
        refine (ih name).mono (fun x hx => hx.trans (List.suffix_cons t ts)) fun fault hfault => ?_
        refine hfault.mono fun o ho => ?_
        rw [places_cons]
        rcases List.mem_cons.mp ho with rfl | ho
        · exact List.mem_cons_self
        · exact List.mem_cons_of_mem _ (List.mem_cons_of_mem _ ho)
      unfold readName
      split
      · split
        · exact Fault.isAt_placed nofun List.mem_cons_self
        · exact List.suffix_cons t ts
      · exact Fault.isAt_placed nofun (List.mem_cons_of_mem _ List.mem_cons_self)
      · exact hlater _
      · exact hlater _

/-- Operands keep to their tokens when what is in parentheses does. -/
theorem keeps_readOperand {inner : Option Reader} (hinner : ∀ read ∈ inner, Reader.Keeps textEnd read) :
    Reader.Keeps textEnd (readOperand textEnd inner) := by
  intro ts
  cases ts with
  | nil => exact keepsTo_error nofun List.mem_cons_self
  | cons t ts =>
      have hsuffix := List.suffix_cons t ts
      have hplace : t.offset ∈ places textEnd (t :: ts) := List.mem_cons_self
      unfold readOperand
      dsimp only
      split
      · -- parentheses
        split
        · exact keepsTo_error nofun hplace
        · next read =>
            refine ((hinner read rfl ts).bind fun x => ?_).of_suffix hsuffix
            obtain ⟨c, rest⟩ := x
            dsimp only
            split
            · exact keepsTo_ok (List.suffix_cons _ _)
            · exact keepsTo_error nofun (place_mem_places textEnd _)
      · exact keepsTo_ok hsuffix
      · exact keepsTo_ok hsuffix
      · exact (meets_readName t.offset ts "").mono (fun x hx => hx.trans hsuffix) fun _ => id
      · split <;> exact keepsTo_ok hsuffix
      · exact keepsTo_error nofun hplace

/-! ## Comparisons -/

theorem keepsTo_expectKeyword (k : Keyword) (ts : List Token) :
    KeepsTo id textEnd ts (expectKeyword textEnd k ts) := by
  unfold expectKeyword
  split
  · split
    · exact keepsTo_ok (List.suffix_cons _ _)
    · exact keepsTo_error nofun List.mem_cons_self
  · exact keepsTo_error nofun List.mem_cons_self

section

variable {operand : Reader} (hoperand : Reader.Keeps textEnd operand)
include hoperand

theorem keeps_readBounds (negated : Bool) (target : Condition) :
    Reader.Keeps textEnd (readBounds textEnd operand negated target) := by
  intro ts
  refine (hoperand ts).bind fun x => ?_
  refine (keepsTo_expectKeyword .and x.2).bind fun rest => ?_
  refine (hoperand rest).bind fun y => ?_
  exact keepsTo_ok (List.suffix_refl _)

/-- One more operand, which completes what is asked. -/
theorem keeps_completed (build : Condition → Condition) :
    Reader.Keeps textEnd fun ts => operand ts >>= fun x => pure (build x.1, x.2) := by
  intro ts
  exact (hoperand ts).bind fun x => keepsTo_ok (List.suffix_refl _)

theorem keeps_readComparison : Reader.Keeps textEnd (readComparison textEnd operand) := by
  intro ts
  refine (hoperand ts).bind fun x => ?_
  obtain ⟨value, rest⟩ := x
  cases rest with
  | nil => exact keepsTo_ok (List.suffix_refl _)
  | cons t after =>
      have hafter : after <:+ t :: after := List.suffix_cons t after
      have hcompleted : ∀ (build : Condition → Condition) {us : List Token}, us <:+ t :: after →
          KeepsTo Prod.snd textEnd (t :: after) (operand us >>= fun x => pure (build x.1, x.2)) :=
        fun build us hus => (keeps_completed hoperand build us).of_suffix hus
      dsimp only
      split
      · exact hcompleted _ hafter
      · exact hcompleted _ hafter
      · exact (keeps_readBounds hoperand false value after).of_suffix hafter
      · exact hcompleted _ hafter
      · exact hcompleted _ hafter
      · -- after `NOT`
        split
        · exact keepsTo_error nofun (List.mem_cons_of_mem _ List.mem_cons_self)
        · next u afterNot =>
            have hafterNot : afterNot <:+ t :: u :: afterNot := (List.suffix_cons u _).trans hafter
            split
            · exact (keeps_readBounds hoperand true value afterNot).of_suffix hafterNot
            · exact hcompleted _ hafterNot
            · refine ((keepsTo_expectKeyword .like (u :: afterNot)).bind fun us => ?_).of_suffix hafter
              exact keeps_completed hoperand _ us
      · exact keepsTo_ok (List.suffix_refl _)

end

/-! ## Logical operators -/

section

variable {word : Keyword} {operand : Reader} (hoperand : Reader.Keeps textEnd operand)
include hoperand

/-- Operands with a keyword between them keep to their tokens, however many there may be. -/
theorem keeps_readOperands (budget : List Token) :
    Reader.Keeps textEnd (readOperands word operand budget) := by
  induction budget with
  | nil =>
      intro ts
      rw [readOperands_nil]
      exact (hoperand ts).bind fun x => keepsTo_ok (List.suffix_refl _)
  | cons b budget ih =>
      intro ts
      rw [readOperands_cons]
      refine (hoperand ts).bind fun x => ?_
      obtain ⟨first, rest⟩ := x
      cases rest with
      | nil => exact keepsTo_ok (List.suffix_refl _)
      | cons t after =>
          dsimp only
          split
          · refine ((ih after).bind fun y => ?_).of_suffix (List.suffix_cons t after)
            exact keepsTo_ok (List.suffix_refl _)
          · exact keepsTo_ok (List.suffix_refl _)

theorem keeps_readChain (join : Condition → Condition → Condition) :
    Reader.Keeps textEnd (readChain word join operand) := by
  intro ts
  exact (keeps_readOperands hoperand ts ts).bind fun x => keepsTo_ok (List.suffix_refl _)

end

theorem keeps_readLogic {negation : Reader} (hnegation : Reader.Keeps textEnd negation) :
    Reader.Keeps textEnd (readLogic negation) :=
  keeps_readChain (keeps_readChain hnegation .and) .or

/-- Negations and comparisons keep to their tokens, by induction on the levels that are left. -/
theorem keeps_readNegation (levels : Nat) : Reader.Keeps textEnd (readNegation textEnd levels) := by
  have hcomparison : ∀ inner : Option Reader, (∀ read ∈ inner, Reader.Keeps textEnd read) →
      Reader.Keeps textEnd (readComparison textEnd (readOperand textEnd inner)) :=
    fun inner hinner => keeps_readComparison (keeps_readOperand hinner)
  induction levels with
  | zero =>
      have hlast := hcomparison none fun _ h => nomatch h
      intro ts
      unfold readNegation
      cases ts with
      | nil => exact hlast []
      | cons t ts =>
          dsimp only
          split
          · exact keepsTo_error (by decide) List.mem_cons_self
          · exact hlast (t :: ts)
  | succ levels ih =>
      intro ts
      unfold readNegation
      cases ts with
      | nil => exact hcomparison none (fun _ h => nomatch h) []
      | cons t ts =>
          dsimp only
          split
          · refine ((ih ts).bind fun x => ?_).of_suffix (List.suffix_cons t ts)
            exact keepsTo_ok (List.suffix_refl _)
          · refine hcomparison _ (fun read hread => ?_) (t :: ts)
            obtain rfl := Option.some.inj hread
            exact keeps_readLogic ih

/-- **Tokens are blamed at one of their places**, or at the end of the text. -/
theorem isAt_of_ofTokens {tokens : List Token} {fault : Fault}
    (h : ofTokens tokens textEnd = .error fault) : fault.IsAt (· ∈ places textEnd tokens) := by
  have hreads : KeepsTo (fun _ => []) textEnd tokens (ofTokens tokens textEnd) := by
    refine (keeps_readLogic (keeps_readNegation nestingLimit) tokens).bind fun x => ?_
    dsimp only
    split
    · exact keepsTo_ok List.nil_suffix
    · next hrest =>
        rw [hrest]
        exact keepsTo_error nofun List.mem_cons_self
  rw [h] at hreads
  exact hreads

/-! ## Texts -/

theorem Lexeme.isLexical : IsLexical Lexeme.read := by
  intro c cs cause h
  unfold Lexeme.read at h
  split_ifs at h
  · split at h <;> cases h
    rfl
  · split at h <;> cases h
    rfl
  · split at h <;> cases h
    rfl

/-- **A text that writes no condition is blamed at one of its places.** -/
theorem isAt_of_ofText {text : List Char} {fault : Fault} (h : ofText text = .error fault) :
    fault.IsAt (PlaceIn 0 text) := by
  have hmeets : Meets (fun _ => True) (Fault.IsAt (PlaceIn 0 text)) (ofText text) := by
    refine (meets_self fun _ => isAt_of_scanWith Lexeme.isLexical).bind fun tokens htokens => ?_
    refine (meets_self fun fault hfault => ?_).mono (fun _ _ => trivial) fun _ => id
    refine (isAt_of_ofTokens hfault).mono fun o ho => (tiles_of_scan htokens).placeIn o ?_
    rwa [Nat.zero_add]
  rw [h] at hmeets
  exact hmeets

end Tabular.Condition
