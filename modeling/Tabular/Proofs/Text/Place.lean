import Tabular.Fault
import Tabular.Text.Blank

set_option autoImplicit false

/-! # Places in texts

A fault points into its text. The places it may point at are those where a token could start or the
text is at its end (`PlaceIn`). They are counted in bytes, so each of them lies between two
characters, whatever characters there are.

What may come out of a computation that can be at fault is stated by a condition on its result and
one on its fault (`Meets`). Such conditions are put together along the steps of the computation.
-/

namespace Tabular

/-! ## Places -/

/-- A number of bytes is a **place** in a text that starts at some number of bytes: as many bytes on,
the text is at its end or goes on with a character that is no blank. -/
def PlaceIn (start : Nat) (cs : List Char) (o : Nat) : Prop :=
  ∃ front back : List Char, cs = front ++ back ∧ o = start + byteLength front ∧
    ∀ c ∈ back.head?, isBlank c = false

section

variable {start o : Nat} {cs : List Char}

/-- A text starts at a place, unless it starts with a blank. -/
theorem placeIn_start (h : ∀ c ∈ cs.head?, isBlank c = false) : PlaceIn start cs start :=
  ⟨[], cs, rfl, rfl, h⟩

/-- A text that starts with no blank starts at a place. -/
theorem placeIn_cons {c : Char} (hc : ¬ isBlank c = true) : PlaceIn start (c :: cs) start := by
  refine placeIn_start fun d hd => ?_
  obtain rfl := Option.some.inj hd
  exact Bool.eq_false_iff.mpr hc

/-- The end of a text is a place. -/
theorem placeIn_end (start : Nat) (cs : List Char) : PlaceIn start cs (start + byteLength cs) :=
  ⟨cs, [], (List.append_nil cs).symm, rfl, fun _ hc => nomatch hc⟩

theorem placeIn_byteLength (cs : List Char) : PlaceIn 0 cs (byteLength cs) := by
  have hend := placeIn_end 0 cs
  rwa [Nat.zero_add] at hend

/-- The places behind a character are places in the text that starts with it. -/
theorem PlaceIn.cons {c : Char} (h : PlaceIn (start + c.utf8Size) cs o) :
    PlaceIn start (c :: cs) o := by
  obtain ⟨front, back, rfl, rfl, hback⟩ := h
  exact ⟨c :: front, back, rfl, by rw [byteLength_cons, Nat.add_assoc], hback⟩

/-- The places in the rest of a text are places in the text. -/
theorem PlaceIn.append {front : List Char} (h : PlaceIn (start + byteLength front) cs o) :
    PlaceIn start (front ++ cs) o := by
  obtain ⟨middle, back, rfl, rfl, hback⟩ := h
  refine ⟨front ++ middle, back, (List.append_assoc ..).symm, ?_, hback⟩
  rw [byteLength_append]
  omega

/-- The places behind a token are places in the text that starts with it. -/
theorem PlaceIn.behind {c : Char} {more : Nat}
    (h : PlaceIn (start + byteLength (c :: cs.take more)) (cs.drop more) o) :
    PlaceIn start (c :: cs) o := by
  have happend := h.append
  rwa [List.cons_append, List.take_append_drop] at happend

/-- No place is before the start of the text. -/
theorem PlaceIn.ge (h : PlaceIn start cs o) : start ≤ o := by
  obtain ⟨front, back, -, rfl, -⟩ := h
  exact Nat.le_add_right ..

/-- No place is behind the end of the text. -/
theorem PlaceIn.le (h : PlaceIn start cs o) : o ≤ start + byteLength cs := by
  obtain ⟨front, back, rfl, rfl, -⟩ := h
  rw [byteLength_append]
  omega

theorem PlaceIn.le_byteLength (h : PlaceIn 0 cs o) : o ≤ byteLength cs := by
  have hle := h.le
  rwa [Nat.zero_add] at hle

end

/-! ## Outcomes -/

/-- A fault **is at** a place of some kind when it has such a place. A fault of evaluation is not: it
is not one of the text. -/
def Fault.IsAt (place : Nat → Prop) (fault : Fault) : Prop :=
  fault.cause.phase ≠ .evaluation ∧ ∃ o, place o ∧ fault.offset = some o

theorem Fault.isAt_placed {place : Nat → Prop} {cause : Cause} {o : Nat}
    (hphase : cause.phase ≠ .evaluation) (ho : place o) : (Fault.placed cause o).IsAt place :=
  ⟨hphase, o, ho, rfl⟩

theorem Fault.IsAt.mono {place place' : Nat → Prop} {fault : Fault} (h : fault.IsAt place)
    (hplace : ∀ o, place o → place' o) : fault.IsAt place' := by
  obtain ⟨hphase, o, ho, hoffset⟩ := h
  exact ⟨hphase, o, hplace o ho, hoffset⟩

theorem Fault.IsAt.offset_ne {place : Nat → Prop} {fault : Fault} (h : fault.IsAt place) :
    fault.offset ≠ none := by
  obtain ⟨-, o, -, hoffset⟩ := h
  rw [hoffset]
  exact Option.some_ne_none o

/-- A computation **meets** a condition on its result and one on its fault. -/
def Meets {ε α : Type} (result : α → Prop) (blame : ε → Prop) : Except ε α → Prop
  | .ok x => result x
  | .error fault => blame fault

section

variable {ε ε' α β : Type} {P P' : α → Prop} {Q : β → Prop} {blame blame' : ε → Prop}
  {r : Except ε α}

theorem Meets.mono (h : Meets P blame r) (hP : ∀ x, P x → P' x)
    (hblame : ∀ fault, blame fault → blame' fault) : Meets P' blame' r := by
  cases r with
  | ok x => exact hP x h
  | error fault => exact hblame fault h

/-- What is blamed for its faults only meets no more than to be what it is. -/
theorem meets_self (h : ∀ fault, r = .error fault → blame fault) :
    Meets (fun x => r = .ok x) blame r := by
  cases r with
  | ok x => rfl
  | error fault => exact h fault rfl

/-- What goes on with a result may rely on what the result meets. -/
theorem Meets.bind {f : α → Except ε β} (hr : Meets P blame r)
    (hf : ∀ x, P x → Meets Q blame (f x)) : Meets Q blame (r >>= f) := by
  cases r with
  | ok x => exact hf x hr
  | error fault => exact hr

theorem Meets.mapError {f : ε → ε'} {blamed : ε' → Prop} (hr : Meets P blame r)
    (hf : ∀ fault, blame fault → blamed (f fault)) : Meets P blamed (r.mapError f) := by
  cases r with
  | ok x => exact hr
  | error fault => exact hf fault hr

end

/-! ## Two outcomes -/

/-- Two faults are of **one kind** when they arise in one phase and at one place. -/
def Fault.SameKind (fault fault' : Fault) : Prop :=
  fault.cause.phase = fault'.cause.phase ∧ fault.offset = fault'.offset

/-- Two computations **agree** when both succeed, with results that are related, or both fail, with
faults that are. -/
def Agree {ε ε' α β : Type} (blame : ε → ε' → Prop) (result : α → β → Prop) :
    Except ε α → Except ε' β → Prop
  | .ok x, .ok y => result x y
  | .error fault, .error fault' => blame fault fault'
  | .ok _, .error _ | .error _, .ok _ => False

section

variable {ε ε' ε'' α β γ δ : Type} {blame blame' : ε → ε' → Prop} {P P' : α → β → Prop} {Q : γ → δ → Prop}
  {r s : Except ε α} {r' s' : Except ε' β}

theorem Agree.ok_or_error (h : Agree blame P r r') :
    (∃ x y, r = .ok x ∧ r' = .ok y ∧ P x y) ∨
      ∃ fault fault', r = .error fault ∧ r' = .error fault' ∧ blame fault fault' := by
  cases r with
  | ok x =>
      cases r' with
      | ok y => exact .inl ⟨x, y, rfl, rfl, h⟩
      | error _ => exact h.elim
  | error fault =>
      cases r' with
      | ok _ => exact h.elim
      | error fault' => exact .inr ⟨fault, fault', rfl, rfl, h⟩

/-- What two computations agree in may be weakened, with regard to what their results are. -/
theorem Agree.mono (h : Agree blame P r r')
    (hP : ∀ x y, r = .ok x → r' = .ok y → P x y → P' x y)
    (hblame : ∀ fault fault', blame fault fault' → blame' fault fault') :
    Agree blame' P' r r' := by
  obtain ⟨x, y, rfl, rfl, hxy⟩ | ⟨fault, fault', rfl, rfl, hfault⟩ := h.ok_or_error
  · exact hP x y rfl rfl hxy
  · exact hblame fault fault' hfault

/-- Computations that agree with the same computation agree with each other. -/
theorem Agree.join {r'' : Except ε'' γ} {blame'' : ε'' → ε' → Prop} {S : γ → β → Prop}
    (h : Agree blame P r r') (h' : Agree blame'' S r'' r') :
    Agree (fun fault fault'' => ∃ fault', blame fault fault' ∧ blame'' fault'' fault')
      (fun x z => ∃ y, P x y ∧ S z y) r r'' := by
  obtain ⟨x, y, rfl, rfl, hxy⟩ | ⟨fault, fault', rfl, rfl, hfault⟩ := h.ok_or_error
  · cases r'' with
    | ok z => exact ⟨y, hxy, h'⟩
    | error _ => exact h'.elim
  · cases r'' with
    | ok _ => exact h'.elim
    | error _ => exact ⟨fault', hfault, h'⟩

/-- Computations that go on in ways that agree agree to the end. -/
theorem Agree.bind {f : α → Except ε γ} {f' : β → Except ε' δ} (h : Agree blame P r r')
    (hf : ∀ x y, P x y → Agree blame Q (f x) (f' y)) :
    Agree blame Q (r >>= f) (r' >>= f') := by
  obtain ⟨x, y, rfl, rfl, hxy⟩ | ⟨fault, fault', rfl, rfl, hfault⟩ := h.ok_or_error
  · exact hf x y hxy
  · exact hfault

theorem Agree.map {f : α → γ} {f' : β → δ} (h : Agree blame P r r')
    (hf : ∀ x y, P x y → Q (f x) (f' y)) : Agree blame Q (r.map f) (r'.map f') :=
  h.bind hf

/-- A choice that both make in the same way agrees when the chosen computations do. -/
theorem Agree.ite {p q : Prop} [Decidable p] [Decidable q] (hpq : p ↔ q)
    (hr : p → Agree blame P r r') (hs : ¬ p → Agree blame P s s') :
    Agree blame P (if p then r else s) (if q then r' else s') := by
  by_cases hp : p
  · rw [if_pos hp, if_pos (hpq.mp hp)]
    exact hr hp
  · rw [if_neg hp, if_neg (mt hpq.mpr hp)]
    exact hs hp

end

end Tabular
