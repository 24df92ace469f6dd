import Tabular.Pattern.Basic

set_option autoImplicit false

/-! # Searching a text for a pattern

A set of places of a text is a natural number: bit `i` is set when place `i` belongs to it. A
pattern turns a set of places into the set of the places where a match from one of them can end.
All of this is done with operations on whole sets: a character class keeps the places before its
characters and moves them on by one, an assertion keeps the places where it holds, and repetition
goes on until the set no longer changes.

For a given text the classes and assertions of a pattern are turned into sets of places once; the
result is a `Track`. A class is asked about each letter of the text once, however often the letter
stands there (`Letters`).
-/

namespace Tabular

/-! ## Sets of places -/

/-- The set whose members are the indices of the true entries of a list. -/
def placesOf (flags : List Bool) : Nat :=
  flags.foldr (fun flag places => 2 * places + flag.toNat) 0

/-- A place belongs to the set exactly when its entry is true. -/
theorem testBit_placesOf (flags : List Bool) (i : Nat) :
    (placesOf flags).testBit i = flags[i]?.getD false := by
  induction flags generalizing i with
  | nil => simp [placesOf]
  | cons flag rest ih =>
      have hcons : placesOf (flag :: rest) = 2 * placesOf rest + flag.toNat := rfl
      rw [hcons]
      cases i with
      | zero =>
          have hlow : (2 * placesOf rest + flag.toNat) % 2 = flag.toNat := by
            have := Bool.toNat_lt flag
            omega
          rw [Nat.testBit_zero, hlow]
          cases flag <;> rfl
      | succ i =>
          have hhalf : (2 * placesOf rest + flag.toNat) / 2 = placesOf rest := by
            have := Bool.toNat_lt flag
            omega
          rw [Nat.testBit_succ, hhalf, ih]
          simp

/-- Applies a function `count` times, or until it has no more effect. -/
def applyTimes (f : Nat → Nat) : Nat → Nat → Nat
  | 0, places => places
  | count + 1, places =>
    let next := f places
    if next = places then places else applyTimes f count next

/-- Adds the result of a function to a set `count` times, or until nothing is added. -/
def applyUpTo (f : Nat → Nat) : Nat → Nat → Nat
  | 0, places => places
  | count + 1, places =>
    let next := places ||| f places
    if next = places then places else applyUpTo f count next

/-! ## Letters -/

/-- The **letters** of a text: its different characters, each with the set of its places. -/
abbrev Letters := List (Char × Nat)

/-- The letters of a text. -/
def Letters.ofText (cs : List Char) : Letters :=
  cs.eraseDups.map fun c => (c, placesOf (cs.map (· == c)))

/-- The places whose characters are in a class. -/
def Letters.placesIn (letters : Letters) (s : CharClass) : Nat :=
  letters.foldl (fun places letter => if s.contains letter.1 then places ||| letter.2 else places) 0

/-- The places gathered from some letters, added to a set. -/
theorem testBit_foldl_letters (letters : Letters) (s : CharClass) (start i : Nat) :
    (letters.foldl (fun places letter =>
        if s.contains letter.1 then places ||| letter.2 else places) start).testBit i =
      (start.testBit i || letters.any fun letter => s.contains letter.1 && letter.2.testBit i) := by
  induction letters generalizing start with
  | nil => simp
  | cons letter rest ih =>
      rw [List.foldl_cons, ih]
      by_cases h : s.contains letter.1 <;> simp [h, Nat.testBit_or, Bool.or_assoc]

/-- A place belongs to the places of a class exactly when its character is in the class. -/
theorem testBit_placesIn_ofText (cs : List Char) (s : CharClass) (i : Nat) :
    ((Letters.ofText cs).placesIn s).testBit i = cs[i]?.any s.contains := by
  rw [Letters.placesIn, testBit_foldl_letters, Bool.eq_iff_iff]
  simp only [Nat.zero_testBit, Bool.false_or, Letters.ofText, List.any_map, List.any_eq_true,
    Function.comp_apply, Bool.and_eq_true, testBit_placesOf, List.getElem?_map,
    Option.any_eq_true, List.mem_eraseDups]
  constructor
  · rintro ⟨c, _, hin, hbit⟩
    cases h : cs[i]? with
    | none => simp [h] at hbit
    | some d =>
        have hdc : d = c := by simpa [h] using hbit
        exact ⟨d, rfl, hdc ▸ hin⟩
  · rintro ⟨c, hc, hin⟩
    exact ⟨c, List.mem_of_getElem? hc, hin, by simp [hc]⟩

/-! ## Tracks -/

/-- A pattern laid out for one text: classes and assertions are sets of places. -/
inductive Track where
  | skip
  /-- Moves on by one from the places of a set. -/
  | advance (places : Nat)
  /-- Stays at the places of a set. -/
  | stay (places : Nat)
  | seq (p q : Track)
  | alt (p q : Track)
  | repeated (p : Track) (min : Nat) (max : Option Nat)
deriving DecidableEq, Repr

namespace Track

/-- The places where a match that starts in a set of places can end. A text of `length` characters
has `length + 1` places, so that many rounds exhaust an unbounded repetition. -/
def run (length : Nat) : Track → Nat → Nat
  | skip, places => places
  | advance source, places => (places &&& source) <<< 1
  | stay allowed, places => places &&& allowed
  | seq p q, places => q.run length (p.run length places)
  | alt p q, places => p.run length places ||| q.run length places
  | repeated p min max, places =>
    let first := applyTimes (p.run length) min places
    match max with
    | none => applyUpTo (p.run length) (length + 1) first
    | some max => if max < min then 0 else applyUpTo (p.run length) (max - min) first

end Track

namespace Pattern

/-- Lays a pattern out for a text, given its letters and the characters before and after each
place. -/
def track (letters : Letters) (places : List (Option Char × Option Char)) : Pattern → Track
  | empty => .skip
  | char _ s => .advance (letters.placesIn s)
  | look l => .stay (placesOf (places.map fun place => l.holds place.1 place.2))
  | seq p q => .seq (p.track letters places) (q.track letters places)
  | alt p q => .alt (p.track letters places) (q.track letters places)
  | repeated p min max _ => .repeated (p.track letters places) min max
  | group _ p => p.track letters places

/-- The characters before and after each place of a text. -/
def neighbours (cs : List Char) : List (Option Char × Option Char) :=
  (none :: cs.map some).zip (cs.map some ++ [none])

/-- Whether a pattern matches somewhere in a text. -/
def occursIn (p : Pattern) (cs : List Char) : Bool :=
  (p.track (Letters.ofText cs) (neighbours cs)).run cs.length (1 <<< (cs.length + 1) - 1) != 0

end Pattern

end Tabular
