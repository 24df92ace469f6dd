import Mathlib.Logic.Function.Iterate
import Tabular.Pattern.Search

set_option autoImplicit false

/-! # Searching is matching

The search works on sets of places, and what it computes is the meaning of patterns: a pattern
occurs in a text exactly when it matches between some two places of it (`occursIn_iff`).

Each part of a track **carries** a relation between places: it sends a set of places to the set of
the places related to one of them (`Carries`). Sequences carry compositions, choices carry unions,
and what is applied some times carries as many steps of a relation (`Times`). A repetition without
greatest count needs no more steps than the text has characters, for steps that consume nothing can
be left out (`Times.shorten`).
-/

namespace Tabular

/-! ## Relations between places -/

/-- A number of **steps** of a relation between the places up to `n`. -/
def Times (n : Nat) (R : Nat → Nat → Prop) : Nat → Nat → Nat → Prop
  | 0, i, k => i = k ∧ k ≤ n
  | count + 1, i, k => ∃ j, R i j ∧ Times n R count j k

/-- A relation **advances** when it leads to places that are not before and not past the end. -/
def Advances (n : Nat) (R : Nat → Nat → Prop) : Prop := ∀ i j : Nat, R i j → i ≤ j ∧ j ≤ n

/-- A function on sets of places **carries** a relation when it sends a set to the places that are
related to one in the set. -/
def Carries (n : Nat) (f : Nat → Nat) (R : Nat → Nat → Prop) : Prop :=
  ∀ places : Nat, (∀ i, places.testBit i = true → i ≤ n) → ∀ j : Nat,
    (f places).testBit j = true ↔ ∃ i, places.testBit i = true ∧ R i j

section

variable {n : Nat} {R Q : Nat → Nat → Prop} {f g : Nat → Nat}

theorem Advances.times (hR : Advances n R) (count : Nat) : Advances n (Times n R count) := by
  induction count with
  | zero =>
      rintro i k ⟨rfl, hk⟩
      exact ⟨Nat.le_refl i, hk⟩
  | succ count ih =>
      rintro i k ⟨j, hij, hjk⟩
      exact ⟨Nat.le_trans (hR i j hij).1 (ih j k hjk).1, (ih j k hjk).2⟩

/-- Some steps after others. -/
theorem times_add (hR : Advances n R) (count more i k : Nat) :
    Times n R (count + more) i k ↔ ∃ j, Times n R count i j ∧ Times n R more j k := by
  induction count generalizing i with
  | zero =>
      rw [Nat.zero_add]
      constructor
      · intro h
        have hle := (hR.times more) i k h
        exact ⟨i, ⟨rfl, Nat.le_trans hle.1 hle.2⟩, h⟩
      · rintro ⟨j, ⟨rfl, -⟩, h⟩
        exact h
  | succ count ih =>
      rw [Nat.succ_add]
      simp only [Times, ih]
      constructor
      · rintro ⟨j, hij, m, hjm, hmk⟩
        exact ⟨m, ⟨j, hij, hjm⟩, hmk⟩
      · rintro ⟨m, ⟨j, hij, hjm⟩, hmk⟩
        exact ⟨j, hij, m, hjm, hmk⟩

/-- Steps that stay where they are can be left out, and the others are no more than the places
passed. -/
theorem Times.shorten (hR : Advances n R) {count i k : Nat} (h : Times n R count i k) :
    ∃ fewer, fewer ≤ k - i ∧ Times n R fewer i k := by
  induction count generalizing i with
  | zero => exact ⟨0, Nat.zero_le _, h⟩
  | succ count ih =>
      obtain ⟨j, hij, hjk⟩ := h
      obtain ⟨fewer, hfewer, hsteps⟩ := ih hjk
      by_cases hstay : i = j
      · subst hstay
        exact ⟨fewer, hfewer, hsteps⟩
      · have hle := hR i j hij
        have hle' := (hR.times fewer) j k hsteps
        exact ⟨fewer + 1, by omega, j, hij, hsteps⟩

/-- Steps that may also stay where they are amount to some of them, or to none. -/
theorem times_or_stay (count i k : Nat) :
    Times n (fun i j => (i = j ∧ j ≤ n) ∨ R i j) count i k ↔
      ∃ fewer ≤ count, Times n R fewer i k := by
  induction count generalizing i with
  | zero => simp [Times]
  | succ count ih =>
      simp only [Times, ih]
      constructor
      · rintro ⟨j, ⟨rfl, -⟩ | hij, fewer, hfewer, h⟩
        · exact ⟨fewer, by omega, h⟩
        · exact ⟨fewer + 1, by omega, j, hij, h⟩
      · rintro ⟨fewer, hfewer, h⟩
        cases fewer with
        | zero => exact ⟨i, .inl ⟨rfl, h.1 ▸ h.2⟩, 0, Nat.zero_le _, h⟩
        | succ fewer =>
            obtain ⟨j, hij, hjk⟩ := h
            exact ⟨j, .inr hij, fewer, by omega, hjk⟩

/-! ## Functions on sets of places -/

theorem Carries.congr (hf : Carries n f R) (h : ∀ i j, R i j ↔ Q i j) : Carries n f Q := by
  intro places hplaces j
  simp only [hf places hplaces j, h]

/-- A set of places stays within the text under what carries a relation that advances. -/
theorem Carries.within (hf : Carries n f R) (hR : Advances n R) {places : Nat}
    (hplaces : ∀ i, places.testBit i = true → i ≤ n) {j : Nat}
    (hj : (f places).testBit j = true) : j ≤ n := by
  obtain ⟨i, -, hij⟩ := (hf places hplaces j).mp hj
  exact (hR i j hij).2

theorem Carries.comp (hf : Carries n f R) (hR : Advances n R) (hg : Carries n g Q) :
    Carries n (fun places => g (f places)) fun i k => ∃ j, R i j ∧ Q j k := by
  intro places hplaces k
  have hbound : ∀ i, (f places).testBit i = true → i ≤ n := fun _ => hf.within hR hplaces
  simp only [hg (f places) hbound k, hf places hplaces]
  constructor
  · rintro ⟨j, ⟨i, hi, hij⟩, hjk⟩
    exact ⟨i, hi, j, hij, hjk⟩
  · rintro ⟨i, hi, j, hij, hjk⟩
    exact ⟨j, ⟨i, hi, hij⟩, hjk⟩

theorem Carries.union (hf : Carries n f R) (hg : Carries n g Q) :
    Carries n (fun places => f places ||| g places) fun i j => R i j ∨ Q i j := by
  intro places hplaces j
  simp only [Nat.testBit_or, Bool.or_eq_true, hf places hplaces j, hg places hplaces j]
  constructor
  · rintro (⟨i, hi, h⟩ | ⟨i, hi, h⟩)
    · exact ⟨i, hi, .inl h⟩
    · exact ⟨i, hi, .inr h⟩
  · rintro ⟨i, hi, h | h⟩
    · exact .inl ⟨i, hi, h⟩
    · exact .inr ⟨i, hi, h⟩

/-- Staying is carried by doing nothing. -/
theorem carries_id (n : Nat) : Carries n (fun places => places) fun i j => i = j ∧ j ≤ n := by
  intro places hplaces j
  constructor
  · intro hj
    exact ⟨j, hj, rfl, hplaces j hj⟩
  · rintro ⟨i, hi, rfl, -⟩
    exact hi

theorem Carries.iterate (hf : Carries n f R) (hR : Advances n R) (count : Nat) :
    Carries n f^[count] (Times n R count) := by
  induction count with
  | zero => exact carries_id n
  | succ count ih => exact hf.comp hR ih

/-! ## Repeated application -/

/-- Stopping where a function has no more effect changes nothing. -/
theorem applyTimes_eq_iterate (f : Nat → Nat) (count places : Nat) :
    applyTimes f count places = f^[count] places := by
  induction count generalizing places with
  | zero => rfl
  | succ count ih =>
      rw [applyTimes]
      by_cases hstop : f places = places
      · rw [if_pos hstop]
        exact (Function.iterate_fixed hstop (count + 1)).symm
      · rw [if_neg hstop, ih]
        rfl

theorem applyUpTo_eq_applyTimes (f : Nat → Nat) (count places : Nat) :
    applyUpTo f count places = applyTimes (fun places => places ||| f places) count places := by
  induction count generalizing places with
  | zero => rfl
  | succ count ih => rw [applyUpTo, applyTimes, ih]

theorem Carries.applyTimes (hf : Carries n f R) (hR : Advances n R) (count : Nat) :
    Carries n (Tabular.applyTimes f count) (Times n R count) := by
  intro places
  rw [applyTimes_eq_iterate]
  exact hf.iterate hR count places

theorem Carries.applyUpTo (hf : Carries n f R) (hR : Advances n R) (count : Nat) :
    Carries n (Tabular.applyUpTo f count) fun i k => ∃ fewer ≤ count, Times n R fewer i k := by
  have hstay : Advances n fun i j => (i = j ∧ j ≤ n) ∨ R i j := by
    rintro i j (⟨rfl, hj⟩ | hij)
    · exact ⟨Nat.le_refl i, hj⟩
    · exact hR i j hij
  have hcarries := (((carries_id n).union hf).applyTimes hstay count).congr
    fun i k => times_or_stay count i k
  intro places
  rw [applyUpTo_eq_applyTimes]
  exact hcarries places

/-- Some steps and then up to some more. -/
theorem Carries.repeat (hf : Carries n f R) (hR : Advances n R) (min count : Nat) :
    Carries n (fun places => Tabular.applyUpTo f count (Tabular.applyTimes f min places))
      fun i k => ∃ more ≤ count, Times n R (min + more) i k := by
  refine ((hf.applyTimes hR min).comp (hR.times min) (hf.applyUpTo hR count)).congr fun i k => ?_
  constructor
  · rintro ⟨j, hij, more, hmore, hjk⟩
    exact ⟨more, hmore, (times_add hR min more i k).mpr ⟨j, hij, hjk⟩⟩
  · rintro ⟨more, hmore, h⟩
    obtain ⟨j, hij, hjk⟩ := (times_add hR min more i k).mp h
    exact ⟨j, hij, more, hmore, hjk⟩

end

namespace Pattern

/-! ## Matching -/

variable {cs : List Char}

/-- Matching goes forwards and stays within the text. -/
theorem Matches.le {p : Pattern} {i j : Nat} (h : Matches cs p i j) : i ≤ j ∧ j ≤ cs.length := by
  induction h with
  | empty hi => exact ⟨Nat.le_refl _, hi⟩
  | char hc _ =>
      obtain ⟨hi, -⟩ := List.getElem?_eq_some_iff.mp hc
      exact ⟨Nat.le_succ _, hi⟩
  | look hi _ => exact ⟨Nat.le_refl _, hi⟩
  | seq _ _ ihp ihq => exact ⟨Nat.le_trans ihp.1 ihq.1, ihq.2⟩
  | altLeft _ ih => exact ih
  | altRight _ ih => exact ih
  | done hi => exact ⟨Nat.le_refl _, hi⟩
  | again _ _ _ ihp ihrest => exact ⟨Nat.le_trans ihp.1 ihrest.1, ihrest.2⟩
  | group _ ih => exact ih

theorem advances_matches (p : Pattern) : Advances cs.length (Matches cs p) := fun _ _ h => h.le

/-- A repetition is an allowed number of steps. -/
theorem matches_repeated_iff {p : Pattern} {min : Nat} {max : Option Nat} {few : Bool}
    {i k : Nat} :
    Matches cs (.repeated p min max few) i k ↔
      ∃ count, min ≤ count ∧ (∀ m ∈ max, count ≤ m) ∧ Times cs.length (Matches cs p) count i k := by
  constructor
  · generalize hq : Pattern.repeated p min max few = q
    intro h
    induction h generalizing min max with
    | done hi =>
        cases hq
        exact ⟨0, Nat.le_refl 0, fun m _ => Nat.zero_le m, rfl, hi⟩
    | again hp hmax _ _ ihrest =>
        cases hq
        obtain ⟨count, hmin, hcount, hsteps⟩ := ihrest rfl
        refine ⟨count + 1, by omega, fun m hm => ?_, _, hp, hsteps⟩
        cases hm
        have hpos : m ≠ 0 := fun h => hmax (h ▸ rfl)
        have := hcount (m - 1) rfl
        omega
    | _ => cases hq
  · rintro ⟨count, hmin, hcount, hsteps⟩
    induction count generalizing min max i with
    | zero =>
        obtain ⟨rfl, hk⟩ := hsteps
        obtain rfl := Nat.le_zero.mp hmin
        exact .done hk
    | succ count ih =>
        obtain ⟨j, hij, hjk⟩ := hsteps
        refine .again hij ?_ (ih (by omega) ?_ hjk)
        · rintro rfl
          have := hcount 0 rfl
          omega
        · intro m hm
          obtain ⟨m', hm', rfl⟩ := Option.map_eq_some_iff.mp hm
          have := hcount m' hm'
          omega

/-- Without a greatest count, a repetition needs at most as many more steps than it has to have as
the text has characters. -/
theorem matches_repeated_none_iff {p : Pattern} {min : Nat} {few : Bool} {i k : Nat} :
    Matches cs (.repeated p min none few) i k ↔
      ∃ more ≤ cs.length + 1, Times cs.length (Matches cs p) (min + more) i k := by
  rw [matches_repeated_iff]
  constructor
  · rintro ⟨count, hmin, -, hsteps⟩
    obtain ⟨more, rfl⟩ := Nat.exists_eq_add_of_le hmin
    obtain ⟨j, hij, hjk⟩ := (times_add (advances_matches p) min more i k).mp hsteps
    obtain ⟨fewer, hfewer, hshort⟩ := hjk.shorten (advances_matches p)
    have hle := ((advances_matches p).times fewer) j k hshort
    exact ⟨fewer, by omega, (times_add (advances_matches p) min fewer i k).mpr ⟨j, hij, hshort⟩⟩
  · rintro ⟨more, -, hsteps⟩
    exact ⟨min + more, Nat.le_add_right _ _, by simp, hsteps⟩

theorem matches_repeated_some_iff {p : Pattern} {min max : Nat} {few : Bool} {i k : Nat} :
    Matches cs (.repeated p min (some max) few) i k ↔
      min ≤ max ∧ ∃ more ≤ max - min, Times cs.length (Matches cs p) (min + more) i k := by
  rw [matches_repeated_iff]
  constructor
  · rintro ⟨count, hmin, hmax, hsteps⟩
    obtain ⟨more, rfl⟩ := Nat.exists_eq_add_of_le hmin
    have hle := hmax max rfl
    exact ⟨by omega, more, by omega, hsteps⟩
  · rintro ⟨hle, more, hmore, hsteps⟩
    refine ⟨min + more, Nat.le_add_right _ _, fun m hm => ?_, hsteps⟩
    cases hm
    omega

/-! ## Tracks -/

/-- The neighbours of a place are the characters before and after it. -/
theorem getElem?_neighbours (cs : List Char) (i : Nat) :
    (neighbours cs)[i]? = if i ≤ cs.length then some (before cs i, cs[i]?) else none := by
  have hbefore :
      (none :: cs.map some)[i]? = if i ≤ cs.length then some (before cs i) else none := by
    cases i with
    | zero => simp [before]
    | succ i =>
        rw [List.getElem?_cons_succ, List.getElem?_map, before, if_neg (Nat.succ_ne_zero i)]
        split
        · next hi => simp [List.getElem?_eq_getElem hi]
        · next hi => simp [List.getElem?_eq_none (Nat.le_of_not_lt hi)]
  have hafter : (cs.map some ++ [none])[i]? = if i ≤ cs.length then some cs[i]? else none := by
    rw [List.getElem?_append, List.length_map]
    by_cases hi : i < cs.length
    · rw [if_pos hi, if_pos (Nat.le_of_lt hi), List.getElem?_map]
      simp [List.getElem?_eq_getElem hi]
    · rw [if_neg hi]
      by_cases hend : i = cs.length
      · subst hend
        simp
      · rw [if_neg (by omega), List.getElem?_eq_none (by simp; omega)]
  rw [neighbours, List.zip, List.getElem?_zipWith, hbefore, hafter]
  by_cases hi : i ≤ cs.length
  · simp only [if_pos hi]
  · simp only [if_neg hi]

/-- A pattern laid out for a text carries its matching. -/
theorem carries_run (p : Pattern) :
    Carries cs.length ((p.track (Letters.ofText cs) (neighbours cs)).run cs.length)
      (Matches cs p) := by
  induction p with
  | empty =>
      refine (carries_id cs.length).congr fun i j => ?_
      constructor
      · rintro ⟨rfl, hi⟩
        exact .empty hi
      · intro h
        cases h with
        | empty hi => exact ⟨rfl, hi⟩
  | char unicode s =>
      intro places _ j
      show ((places &&& (Letters.ofText cs).placesIn s) <<< 1).testBit j = true ↔ _
      cases j with
      | zero =>
          rw [Nat.testBit_shiftLeft]
          constructor
          · intro h
            simp at h
          · rintro ⟨i, -, h⟩
            cases h
      | succ j =>
          rw [Nat.testBit_shiftLeft, Nat.add_sub_cancel, Nat.testBit_and, testBit_placesIn_ofText]
          simp only [ge_iff_le, Nat.le_add_left, decide_true, Bool.true_and, Bool.and_eq_true,
            Option.any_eq_true]
          constructor
          · rintro ⟨hj, c, hc, hs⟩
            exact ⟨j, hj, .char hc hs⟩
          · rintro ⟨i, hi, h⟩
            cases h with
            | char hc hs => exact ⟨hi, _, hc, hs⟩
  | look l =>
      intro places hplaces j
      show (places &&&
        placesOf ((neighbours cs).map fun place => l.holds place.1 place.2)).testBit j = true ↔ _
      rw [Nat.testBit_and, testBit_placesOf, List.getElem?_map, getElem?_neighbours,
        Bool.and_eq_true]
      constructor
      · rintro ⟨hj, hholds⟩
        rw [if_pos (hplaces j hj)] at hholds
        exact ⟨j, hj, .look (hplaces j hj) hholds⟩
      · rintro ⟨i, hi, h⟩
        cases h with
        | look hle hholds =>
            rw [if_pos hle]
            exact ⟨hi, hholds⟩
  | seq p q ihp ihq =>
      refine (ihp.comp (advances_matches p) ihq).congr fun i k => ?_
      constructor
      · rintro ⟨j, hij, hjk⟩
        exact .seq hij hjk
      · intro h
        cases h with
        | seq hij hjk => exact ⟨_, hij, hjk⟩
  | alt p q ihp ihq =>
      refine (ihp.union ihq).congr fun i j => ?_
      constructor
      · rintro (h | h)
        · exact .altLeft h
        · exact .altRight h
      · intro h
        cases h with
        | altLeft h => exact .inl h
        | altRight h => exact .inr h
  | repeated p min max few ih =>
      have hrepeat := ih.repeat (advances_matches p) min
      cases max with
      | none => exact (hrepeat (cs.length + 1)).congr fun i k => matches_repeated_none_iff.symm
      | some max =>
          by_cases hmax : max < min
          · intro places _ j
            simp only [track, Track.run, if_pos hmax, Nat.zero_testBit, matches_repeated_some_iff]
            constructor
            · intro h
              cases h
            · rintro ⟨i, -, hle, -⟩
              omega
          · intro places hplaces k
            simp only [track, Track.run, if_neg hmax, matches_repeated_some_iff]
            rw [hrepeat (max - min) places hplaces k]
            simp only [Nat.le_of_not_lt hmax, true_and]
  | group captured p ih =>
      refine ih.congr fun i j => ⟨.group, fun h => ?_⟩
      cases h with
      | group h => exact h

/-- **Searching is matching.** A pattern occurs in a text exactly when it matches between some two
places of it. -/
theorem occursIn_iff (p : Pattern) (cs : List Char) :
    p.occursIn cs = true ↔ ∃ i j, Matches cs p i j := by
  have hall : ∀ i, (1 <<< (cs.length + 1) - 1).testBit i = true ↔ i ≤ cs.length := by
    intro i
    rw [Nat.one_shiftLeft, Nat.testBit_two_pow_sub_one, decide_eq_true_eq, Nat.lt_succ_iff]
  have hrun := carries_run p _ fun i hi => (hall i).mp hi
  rw [occursIn, bne_iff_ne]
  constructor
  · intro hne
    obtain ⟨j, hj⟩ := Nat.exists_testBit_of_ne_zero hne
    obtain ⟨i, -, h⟩ := (hrun j).mp hj
    exact ⟨i, j, h⟩
  · rintro ⟨i, j, h⟩ hzero
    have hj := (hrun j).mpr ⟨i, (hall i).mpr (Nat.le_trans h.le.1 h.le.2), h⟩
    rw [hzero, Nat.zero_testBit] at hj
    cases hj

end Pattern

end Tabular
