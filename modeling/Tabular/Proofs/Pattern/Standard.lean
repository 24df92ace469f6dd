import Tabular.Proofs.Pattern.Laws
import Tabular.Proofs.Pattern.Search

set_option autoImplicit false

/-! # The standard engine is lawful

The parts that filters write are read one by one: each text of a part pushes one pattern, and no
group is ever opened (`read?_textAll`). The pattern of a part matches between two places exactly when
the part takes what lies between them (`matches_part_iff`), and so do the patterns of some parts one
after the other. So the standard engine is lawful (`standard_isLawful`). Few parts are never too
large for it (`fits_patternAll_of_le`).
-/

namespace Tabular

open Pattern

/-! ## The patterns of parts -/

/-- The pattern of what stands for one character. -/
def CharPattern.pattern (ignoreCase : Bool) : CharPattern → Pattern
  | char c => .char true (if ignoreCase then .sameCase c else .single c)
  | any => .char true (.compl (.single '\n'))

/-- The pattern of a part. -/
def PatternPart.pattern (ignoreCase : Bool) : PatternPart → Pattern
  | one s => s.pattern ignoreCase
  | star s => .repeated (s.pattern ignoreCase) 0 none false
  | textStart => .look .textStart
  | textEnd => .look .textEnd

/-- The pattern of a part, with its depth. -/
def PatternPart.nested (ignoreCase : Bool) (p : PatternPart) : Nested :=
  ⟨p.pattern ignoreCase, match p with | star _ => 1 | _ => 0⟩

/-- The pattern of some parts. -/
def PatternPart.patternAll (ignoreCase : Bool) (parts : List PatternPart) : Pattern :=
  seqAll (parts.map (pattern ignoreCase))

/-! ## Reading parts -/

section

variable {ignoreCase : Bool} {r : Reading} {rest : List Char}

/-- A character that would mean something is escaped as itself. -/
theorem readEscape_meta {c : Char} (f : Flags) (hc : isMeta c = true) :
    readEscape f (c :: rest) = some (.char c false, rest) := by
  have hne : ∀ d : Char, isMeta d = false → c ≠ d := by
    rintro d hd rfl
    rw [hd] at hc
    cases hc
  have hescapable : isEscapable c = true := by rw [isEscapable, hc, Bool.true_or]
  unfold readEscape
  dsimp only
  rw [if_neg (hne _ (by decide)), if_neg (hne _ (by decide)), if_neg (hne _ (by decide)),
    if_neg (not_or.mpr ⟨hne _ (by decide), hne _ (by decide)⟩), if_neg (hne _ (by decide)),
    if_neg (hne _ (by decide)), if_neg (hne _ (by decide)), if_neg (hne _ (by decide)),
    if_neg (hne _ (by decide)), if_neg (hne _ (by decide)), if_pos hescapable]

theorem readPart_point (hflags : r.flags = { ignoreCase }) :
    readPart r '.' rest = some (r.push ⟨CharPattern.any.pattern ignoreCase, 0⟩, rest) := by
  show (ofDot r.flags).map _ = _
  rw [hflags]
  rfl

/-- A star repeats the last part, and as often as possible where no question mark follows. -/
theorem readPart_star (hflags : r.flags = { ignoreCase }) (p : Nested)
    (hrest : rest.head? ≠ some '?') :
    readPart (r.push p) '*' rest =
      some (r.push ⟨.repeated p.pattern 0 none false, p.depth + 1⟩, rest) := by
  have hquestion : takeQuestion rest = (false, rest) := by
    unfold takeQuestion
    split
    · exact absurd rfl hrest
    · rfl
  have hfew : (false != (r.push p).flags.preferFew) = false := by
    rw [show (r.push p).flags = { ignoreCase } from hflags]
    rfl
  show ((r.push p).repeatLast 0 none (takeQuestion rest).1).map
    (fun r => (r, (takeQuestion rest).2)) = _
  rw [hquestion, Reading.repeatLast, hfew]
  rfl

/-- A character that means nothing is read as itself. -/
theorem readPart_plain (hflags : r.flags = { ignoreCase }) {c : Char} (hc : isMeta c = false) :
    readPart r c rest = some (r.push ⟨(CharPattern.char c).pattern ignoreCase, 0⟩, rest) := by
  have hne : ∀ d : Char, isMeta d = true → c ≠ d := by
    rintro d hd rfl
    rw [hd] at hc
    cases hc
  unfold readPart
  rw [if_neg (hne _ (by decide)), if_neg (hne _ (by decide)), if_neg (hne _ (by decide)),
    if_neg (hne _ (by decide)), if_neg (hne _ (by decide)), if_neg (hne _ (by decide)),
    if_neg (hne _ (by decide)), if_neg (hne _ (by decide)), if_neg (hne _ (by decide)),
    if_neg (hne _ (by decide)), if_neg (hne _ (by decide)), if_neg (hne _ (by decide)), hflags]
  cases ignoreCase <;> rfl

/-- A character that would mean something is read as itself behind a backslash. -/
theorem readPart_escaped (hflags : r.flags = { ignoreCase }) {c : Char} (hc : isMeta c = true) :
    readPart r '\\' (c :: rest) =
      some (r.push ⟨(CharPattern.char c).pattern ignoreCase, 0⟩, rest) := by
  show (readEscape r.flags (c :: rest) >>= _) = _
  rw [readEscape_meta r.flags hc, hflags]
  cases ignoreCase <;> rfl

/-- An anchor is read as itself. -/
theorem readPart_textStart (hflags : r.flags = { ignoreCase }) :
    readPart r '^' rest = some (r.push ⟨.look .textStart, 0⟩, rest) := by
  show some (r.push ⟨.look (ofAnchor r.flags true), 0⟩, rest) = _
  rw [hflags]
  rfl

theorem readPart_textEnd (hflags : r.flags = { ignoreCase }) :
    readPart r '$' rest = some (r.push ⟨.look .textEnd, 0⟩, rest) := by
  show some (r.push ⟨.look (ofAnchor r.flags false), 0⟩, rest) = _
  rw [hflags]
  rfl

theorem readParts_cons {c : Char} {after : List Char} {next : Reading} {fuel : Nat}
    (hflags : r.flags = { ignoreCase }) (h : readPart r c rest = some (next, after)) :
    readParts (fuel + 1) r (c :: rest) = readParts fuel next after := by
  rw [readParts, hflags]
  show (readPart r c rest >>= _) = _
  rw [h]
  rfl

theorem readParts_nil (hflags : r.flags = { ignoreCase }) (fuel : Nat) :
    readParts fuel r [] = some r := by
  rw [readParts, hflags]
  rfl

/-- A text **pushes** a pattern in front of some other text when reading it comes to the other text
with the pattern pushed, in at most as many steps as the text has characters. -/
def Pushes (r : Reading) (text : List Char) (p : Nested) (rest : List Char) : Prop :=
  ∀ fuel : Nat, (text ++ rest).length ≤ fuel → ∃ left : Nat, rest.length ≤ left ∧
    readParts fuel r (text ++ rest) = readParts left (r.push p) rest

/-- What is read in one step pushes its pattern. -/
theorem pushes_of_readPart (hflags : r.flags = { ignoreCase }) {c : Char} {more : List Char}
    {p : Nested} (h : readPart r c (more ++ rest) = some (r.push p, rest)) :
    Pushes r (c :: more) p rest := by
  intro fuel hfuel
  rw [List.cons_append, List.length_cons, List.length_append] at hfuel
  obtain ⟨left, rfl⟩ : ∃ left, fuel = left + 1 := ⟨fuel - 1, by omega⟩
  refine ⟨left, by omega, ?_⟩
  rw [List.cons_append, readParts_cons hflags h]

theorem pushes_charPattern (hflags : r.flags = { ignoreCase }) (s : CharPattern) :
    Pushes r s.text ⟨s.pattern ignoreCase, 0⟩ rest := by
  cases s with
  | any => exact pushes_of_readPart hflags (readPart_point hflags)
  | char c =>
      rw [CharPattern.text]
      cases hmeta : isMeta c with
      | true => exact pushes_of_readPart hflags (readPart_escaped hflags hmeta)
      | false => exact pushes_of_readPart hflags (readPart_plain hflags hmeta)

/-- **The text of a part pushes its pattern**, unless a question mark follows. -/
theorem pushes_part (hflags : r.flags = { ignoreCase }) (hrest : rest.head? ≠ some '?')
    (p : PatternPart) : Pushes r p.text (p.nested ignoreCase) rest := by
  cases p with
  | one s => exact pushes_charPattern hflags s
  | textStart => exact pushes_of_readPart hflags (readPart_textStart hflags)
  | textEnd => exact pushes_of_readPart hflags (readPart_textEnd hflags)
  | star s =>
      intro fuel hfuel
      rw [PatternPart.text, List.append_assoc] at hfuel ⊢
      -- first the character, then the star
      obtain ⟨left, hleft, hread⟩ := pushes_charPattern hflags s fuel hfuel
      obtain ⟨left, rfl⟩ : ∃ fewer, left = fewer + 1 :=
        ⟨left - 1, by rw [List.length_append, List.length_singleton] at hleft; omega⟩
      refine ⟨left, by simpa using hleft, ?_⟩
      rw [hread]
      exact readParts_cons hflags (readPart_star hflags ⟨s.pattern ignoreCase, 0⟩ hrest)

/-- No text of parts starts with a question mark. -/
theorem head?_textAll (parts : List PatternPart) :
    (PatternPart.textAll parts).head? ≠ some '?' := by
  have hsingle : ∀ (s : CharPattern) (more : List Char), (s.text ++ more).head? ≠ some '?' := by
    intro s more
    cases s with
    | any => exact fun h => absurd (Option.some.inj h) (by decide)
    | char c =>
        rw [CharPattern.text]
        split
        · exact fun h => absurd (Option.some.inj h) (by decide)
        · next hmeta =>
            intro h
            rw [Option.some.inj h] at hmeta
            exact hmeta (by decide)
  cases parts with
  | nil => exact nofun
  | cons p ps =>
      rw [PatternPart.textAll, List.flatMap_cons]
      cases p with
      | one s => exact hsingle s _
      | star s =>
          rw [PatternPart.text, List.append_assoc]
          exact hsingle s _
      | textStart | textEnd => exact fun h => absurd (Option.some.inj h) (by decide)

/-- The texts of some parts push their patterns one after the other. -/
theorem readParts_textAll (parts : List PatternPart) (hflags : r.flags = { ignoreCase }) {fuel : Nat}
    (hfuel : (PatternPart.textAll parts).length ≤ fuel) :
    readParts fuel r (PatternPart.textAll parts) =
      some ((parts.map (PatternPart.nested ignoreCase)).foldl Reading.push r) := by
  induction parts generalizing r fuel with
  | nil => exact readParts_nil hflags fuel
  | cons p ps ih =>
      obtain ⟨left, hleft, hread⟩ := pushes_part hflags (head?_textAll ps) p fuel hfuel
      show readParts fuel r (p.text ++ PatternPart.textAll ps) = _
      rw [hread, ih (r := r.push (p.nested ignoreCase)) hflags hleft]
      rfl

end

theorem foldl_push (ps : List Nested) (r : Reading) :
    ps.foldl Reading.push r = { r with items := (ps.map Item.pattern).reverse ++ r.items } := by
  induction ps generalizing r with
  | nil => rfl
  | cons p ps ih =>
      rw [List.foldl_cons, ih, List.map_cons, List.reverse_cons, List.append_assoc]
      rfl

theorem greatest_le {depths : List Nat} {bound : Nat} (h : ∀ d ∈ depths, d ≤ bound) :
    greatest depths ≤ bound := by
  suffices hfold : ∀ least ≤ bound, depths.foldl max least ≤ bound from hfold 0 (Nat.zero_le _)
  induction depths with
  | nil => exact fun least hleast => hleast
  | cons d depths ih =>
      intro least hleast
      exact ih (fun e he => h e (List.mem_cons_of_mem _ he)) _
        (Nat.max_le.mpr ⟨hleast, h d List.mem_cons_self⟩)

theorem pattern_sequence (ps : List Nested) :
    (Pattern.sequence (ps.map Item.pattern).reverse).pattern = seqAll (ps.map Nested.pattern) := by
  rw [Pattern.sequence, List.reverse_reverse, List.filterMap_map]
  exact congrArg (fun pick => seqAll (pick ps)) List.filterMap_eq_map'

/-- A sequence is at most one level deeper than the deepest of its parts. -/
theorem depth_sequence_le {items : List Item} {bound : Nat}
    (h : ∀ item ∈ items, item.depth ≤ bound) : (Pattern.sequence items).depth ≤ bound + 1 := by
  have hitems : greatest (items.map Item.depth) ≤ bound := by
    refine greatest_le fun d hd => ?_
    obtain ⟨item, hitem, rfl⟩ := List.mem_map.mp hd
    exact h item hitem
  rw [Pattern.sequence]
  dsimp only
  split <;> omega

/-- A choice with one branch is that branch. -/
theorem alternation_nil (p : Nested) : alternation [] p = p := by
  simp [alternation, greatest, altAll]

/-- No part is nested deeper than a repetition. -/
theorem depth_nested_le (ignoreCase : Bool) (p : PatternPart) : (p.nested ignoreCase).depth ≤ 1 := by
  cases p <;> simp [PatternPart.nested]

/-- **The text of some parts is a pattern**, whatever the parts are. -/
theorem read?_textAll (ignoreCase : Bool) (parts : List PatternPart) :
    read? { ignoreCase } (PatternPart.textAll parts) =
      some (PatternPart.patternAll ignoreCase parts) := by
  -- the patterns are pushed one after the other, and no group is ever opened
  let start : Reading := ⟨[], [], { ignoreCase }, [], []⟩
  let ps : List Nested := parts.map (PatternPart.nested ignoreCase)
  have hread : readParts (PatternPart.textAll parts).length start (PatternPart.textAll parts) =
      some (ps.foldl Reading.push start) := readParts_textAll parts rfl (Nat.le_refl _)
  have hbody :
      (ps.foldl Reading.push start).body = Pattern.sequence (ps.map Item.pattern).reverse := by
    rw [foldl_push, Reading.body, List.append_nil]
    exact alternation_nil _
  have hdepth : (ps.foldl Reading.push start).body.depth ≤ depthLimit := by
    rw [hbody]
    refine Nat.le_trans (depth_sequence_le fun item hitem => ?_) (show 1 + 1 ≤ depthLimit by decide)
    obtain ⟨p, hp, rfl⟩ := List.mem_map.mp (List.mem_reverse.mp hitem)
    obtain ⟨part, -, rfl⟩ := List.mem_map.mp hp
    exact depth_nested_le ignoreCase part
  have hclosed : (ps.foldl Reading.push start).enclosing = [] := by rw [foldl_push]
  rw [read?, hread]
  show (guard _ >>= fun _ => some _) = _
  rw [hclosed, List.isEmpty_nil, decide_eq_true hdepth, hbody, pattern_sequence, List.map_map]
  rfl

/-! ## Matching parts -/

section

variable {ignoreCase : Bool} {cs before run after : List Char} {i k : Nat}

/-- A sequence of patterns matches in front of the others when the first does. -/
theorem matches_seqAll_cons {p : Pattern} {ps : List Pattern} :
    Matches cs (seqAll (p :: ps)) i k ↔ ∃ j, Matches cs p i j ∧ Matches cs (seqAll ps) j k := by
  cases ps with
  | nil =>
      constructor
      · intro h
        exact ⟨k, h, .empty h.le.2⟩
      · rintro ⟨j, h, hempty⟩
        cases hempty
        exact h
  | cons q ps =>
      constructor
      · intro h
        cases h with
        | seq hp hps => exact ⟨_, hp, hps⟩
      · rintro ⟨j, hp, hps⟩
        exact .seq hp hps

theorem matches_empty_iff : Matches cs .empty i k ↔ i = k ∧ i ≤ cs.length := by
  constructor
  · intro h
    cases h with
    | empty hi => exact ⟨rfl, hi⟩
  · rintro ⟨rfl, hi⟩
    exact .empty hi

theorem matches_char_iff {s : CharClass} :
    Matches cs (.char true s) i k ↔ ∃ c, cs[i]? = some c ∧ s.contains c = true ∧ k = i + 1 := by
  constructor
  · intro h
    cases h with
    | char hc hs => exact ⟨_, hc, hs, rfl⟩
  · rintro ⟨c, hc, hs, rfl⟩
    exact .char hc hs

theorem matches_look_iff {l : Look} :
    Matches cs (.look l) i k ↔
      i = k ∧ i ≤ cs.length ∧ l.holds (Pattern.before cs i) cs[i]? = true := by
  constructor
  · intro h
    cases h with
    | look hi hl => exact ⟨rfl, hi, hl⟩
  · rintro ⟨rfl, hi, hl⟩
    exact .look hi hl

/-- A run is nothing, or one more character in front of a run. -/
theorem matches_run_iff {p : Pattern} :
    Matches cs (.repeated p 0 none false) i k ↔
      (i = k ∧ i ≤ cs.length) ∨
        ∃ j, Matches cs p i j ∧ Matches cs (.repeated p 0 none false) j k := by
  constructor
  · intro h
    cases h with
    | done hi => exact .inl ⟨rfl, hi⟩
    | again hp _ hrest => exact .inr ⟨_, hp, hrest⟩
  · rintro (⟨rfl, hi⟩ | ⟨j, hp, hrest⟩)
    · exact .done hi
    · exact .again hp (by simp) hrest

/-- What stands for a character matches the characters that it stands for. -/
theorem matches_charPattern_iff (s : CharPattern) :
    Matches cs (s.pattern ignoreCase) i k ↔
      ∃ c, cs[i]? = some c ∧ s.admits ignoreCase c = true ∧ k = i + 1 := by
  cases s with
  | any =>
      rw [CharPattern.pattern, matches_char_iff]
      simp only [CharClass.contains, CharClass.contains_single, CharPattern.admits]
      rfl
  | char w =>
      rw [CharPattern.pattern, matches_char_iff]
      cases ignoreCase with
      | false => simp [CharClass.contains_single, CharPattern.admits]
      | true => simp [CharClass.contains, CharPattern.admits]

/-- A starred character matches the runs of characters that it stands for. -/
theorem matches_star_iff (s : CharPattern) (hcs : cs = before ++ (run ++ after)) :
    Matches cs ((PatternPart.star s).pattern ignoreCase) before.length
        (before.length + run.length) ↔ ∀ c ∈ run, s.admits ignoreCase c = true := by
  rw [PatternPart.pattern]
  induction run generalizing before with
  | nil =>
      have hle : before.length ≤ cs.length := by simp [hcs]
      exact ⟨fun _ => List.forall_mem_nil _, fun _ => .done hle⟩
  | cons c run ih =>
      have hc : cs[before.length]? = some c := by simp [hcs]
      have hrest := ih (show cs = before ++ [c] ++ (run ++ after) by simp [hcs])
      have hnext : (before ++ [c]).length = before.length + 1 := List.length_append
      have hend : before.length + (c :: run).length = before.length + 1 + run.length := by
        rw [List.length_cons]
        omega
      rw [hnext] at hrest
      rw [matches_run_iff, List.forall_mem_cons, ← hrest, hend]
      simp only [matches_charPattern_iff]
      constructor
      · rintro (⟨hstay, -⟩ | ⟨j, ⟨d, hd, hadmits, rfl⟩, hrun⟩)
        · omega
        · obtain rfl : c = d := Option.some.inj (hc.symm.trans hd)
          exact ⟨hadmits, hrun⟩
      · rintro ⟨hadmits, hrun⟩
        exact .inr ⟨_, ⟨c, hc, hadmits, rfl⟩, hrun⟩

/-- **The pattern of a part matches what the part takes.** -/
theorem matches_part_iff (p : PatternPart) (hcs : cs = before ++ (run ++ after)) :
    Matches cs (p.pattern ignoreCase) before.length (before.length + run.length) ↔
      p.Takes ignoreCase before run after := by
  have hlength : cs.length = before.length + (run.length + after.length) := by
    rw [hcs, List.length_append, List.length_append]
  cases p with
  | star s => exact matches_star_iff s hcs
  | one s =>
      rw [PatternPart.pattern, matches_charPattern_iff, PatternPart.Takes]
      constructor
      · rintro ⟨c, hc, hadmits, hone⟩
        obtain ⟨d, rfl⟩ := List.length_eq_one_iff.mp (Nat.add_left_cancel hone)
        have hd : cs[before.length]? = some d := by simp [hcs]
        obtain rfl : d = c := Option.some.inj (hd.symm.trans hc)
        exact ⟨d, rfl, hadmits⟩
      · rintro ⟨c, rfl, hadmits⟩
        exact ⟨c, by simp [hcs], hadmits, rfl⟩
  | textStart =>
      rw [PatternPart.pattern, matches_look_iff, PatternPart.Takes, ← List.length_eq_zero_iff,
        ← List.length_eq_zero_iff]
      have hholds : (Look.holds (Pattern.before cs before.length) cs[before.length]? .textStart) =
          true ↔ before.length = 0 := by
        rw [Look.holds, Pattern.before]
        split
        · next hzero => exact iff_of_true rfl hzero
        · next hpos =>
            -- every other place has a character before it
            rw [List.getElem?_eq_getElem (show before.length - 1 < cs.length by omega)]
            exact iff_of_false nofun hpos
      rw [hholds]
      omega
  | textEnd =>
      rw [PatternPart.pattern, matches_look_iff, PatternPart.Takes, ← List.length_eq_zero_iff,
        ← List.length_eq_zero_iff, Look.holds, Option.isNone_iff_eq_none,
        List.getElem?_eq_none_iff]
      omega

/-- The patterns of some parts match what the parts take one after the other. -/
theorem matches_patternAll_iff (parts : List PatternPart) (hcs : cs = before ++ (run ++ after)) :
    Matches cs (PatternPart.patternAll ignoreCase parts) before.length
        (before.length + run.length) ↔
      PatternPart.TakeAll ignoreCase parts before run after := by
  induction parts generalizing before run with
  | nil =>
      show Matches cs .empty _ _ ↔ run = []
      rw [matches_empty_iff, ← List.length_eq_zero_iff, hcs, List.length_append]
      omega
  | cons p ps ih =>
      -- the first part takes some of the run, and the others take the rest
      have hsplit : ∀ first rest : List Char, run = first ++ rest →
          (Matches cs (p.pattern ignoreCase) before.length (before.length + first.length) ∧
              Matches cs (PatternPart.patternAll ignoreCase ps) (before.length + first.length)
                (before.length + run.length) ↔
            p.Takes ignoreCase before first (rest ++ after) ∧
              PatternPart.TakeAll ignoreCase ps (before ++ first) rest after) := by
        rintro first rest rfl
        have hfirst : cs = before ++ (first ++ (rest ++ after)) := by simp [hcs]
        have hrest : cs = before ++ first ++ (rest ++ after) := by simp [hcs]
        rw [matches_part_iff p hfirst, ← ih hrest, List.length_append, List.length_append,
          Nat.add_assoc]
      show Matches cs (seqAll (p.pattern ignoreCase :: ps.map _)) _ _ ↔ _
      rw [matches_seqAll_cons, PatternPart.TakeAll]
      constructor
      · rintro ⟨j, hfirst, hrest⟩
        obtain ⟨taken, rfl⟩ := Nat.exists_eq_add_of_le hfirst.le.1
        have htaken : taken ≤ run.length := Nat.le_of_add_le_add_left hrest.le.1
        have hlength : (run.take taken).length = taken := List.length_take_of_le htaken
        have hrun : run = run.take taken ++ run.drop taken := (List.take_append_drop ..).symm
        refine ⟨_, _, hrun, (hsplit _ _ hrun).mp ?_⟩
        rw [hlength]
        exact ⟨hfirst, hrest⟩
      · rintro ⟨first, rest, hrun, htakes⟩
        exact ⟨_, (hsplit first rest hrun).mpr htakes⟩

end

/-- **The standard engine is lawful.** -/
theorem standard_isLawful : PatternEngine.standard.IsLawful where
  isSome_read? ignoreCase parts := by
    show (read? { ignoreCase } (PatternPart.textAll parts)).isSome = true
    rw [read?_textAll]
    rfl
  occursIn_iff := by
    intro ignoreCase parts p hread cs
    have hp : p = PatternPart.patternAll ignoreCase parts :=
      Option.some.inj (hread.symm.trans (read?_textAll ignoreCase parts))
    show p.occursIn cs = true ↔ _
    rw [occursIn_iff, hp]
    constructor
    · rintro ⟨i, k, hmatch⟩
      obtain ⟨hik, hk⟩ := hmatch.le
      -- what lies between the two places is the run
      have hbefore : (cs.take i).length = i := List.length_take_of_le (Nat.le_trans hik hk)
      have hrun : ((cs.drop i).take (k - i)).length = k - i := by
        rw [List.length_take_of_le]
        rw [List.length_drop]
        omega
      have hcs : cs = cs.take i ++ ((cs.drop i).take (k - i) ++ (cs.drop i).drop (k - i)) := by
        rw [List.take_append_drop, List.take_append_drop]
      refine ⟨_, _, _, hcs, (matches_patternAll_iff parts hcs).mp ?_⟩
      rwa [hbefore, hrun, Nat.add_sub_cancel' hik]
    · rintro ⟨before, run, after, hcs, htakes⟩
      exact ⟨_, _, (matches_patternAll_iff parts hcs).mpr htakes⟩

/-! ## The size of few parts -/

theorem sizeBound_seqAll_le {ps : List Pattern} {bound : Nat}
    (h : ∀ p ∈ ps, p.sizeBound ≤ bound) :
    (seqAll ps).sizeBound ≤ 32 + ps.length * (bound + 4) := by
  induction ps with
  | nil => exact Nat.le_add_right 32 _
  | cons p ps ih =>
      have hp := h p List.mem_cons_self
      have hps := ih fun q hq => h q (List.mem_cons_of_mem _ hq)
      rw [List.length_cons, Nat.succ_mul]
      cases ps with
      | nil =>
          show p.sizeBound ≤ _
          omega
      | cons q ps =>
          show p.sizeBound + (seqAll (q :: ps)).sizeBound + 4 ≤ _
          omega

/-- Parts that are small enough for their number fit. -/
theorem fits_patternAll_of_le {ignoreCase : Bool} {parts : List PatternPart} {bound : Nat}
    (hparts : ∀ p ∈ parts, (p.pattern ignoreCase).sizeBound ≤ bound)
    (hsize : 32 + parts.length * (bound + 4) + 512 ≤ sizeLimit) :
    (PatternPart.patternAll ignoreCase parts).fits = true := by
  have hle : (PatternPart.patternAll ignoreCase parts).sizeBound ≤
      32 + (parts.map (PatternPart.pattern ignoreCase)).length * (bound + 4) := by
    refine sizeBound_seqAll_le fun p hp => ?_
    obtain ⟨part, hpart, rfl⟩ := List.mem_map.mp hp
    exact hparts part hpart
  rw [List.length_map] at hle
  exact fits_of_sizeBound_le (Nat.le_trans (Nat.add_le_add_right hle 512) hsize)

/-- A single character takes little room, unless its case is ignored. -/
theorem sizeBound_char (c : Char) :
    ((PatternPart.one (.char c)).pattern false).sizeBound = 320 := if_pos rfl

theorem sizeBound_charPattern_le (ignoreCase : Bool) (s : CharPattern) :
    (s.pattern ignoreCase).sizeBound ≤ 9024 := by
  cases s with
  | any =>
      show (Pattern.char true (.compl (.single '\n'))).sizeBound ≤ 9024
      decide
  | char c =>
      cases ignoreCase with
      | false => exact Nat.le_trans (Nat.le_of_eq (sizeBound_char c)) (by decide)
      | true =>
          show 64 + 4 * 40 * (7 * (4 + 4)) ≤ 9024
          decide

theorem sizeBound_part_le (ignoreCase : Bool) (p : PatternPart) :
    (p.pattern ignoreCase).sizeBound ≤ 9200 := by
  cases p with
  | textStart | textEnd => exact (by decide : 32 ≤ 9200)
  | one s => exact Nat.le_trans (sizeBound_charPattern_le ignoreCase s) (by decide)
  | star s =>
      have hs := sizeBound_charPattern_le ignoreCase s
      show 1 * ((s.pattern ignoreCase).sizeBound + 48) + 4 * 32 ≤ 9200
      omega

end Tabular
