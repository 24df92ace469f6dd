import Tabular.Proofs.Filter.Cache
import Tabular.Proofs.Pattern.Standard

set_option autoImplicit false

/-! # Wildcards are matched directly

A wildcard text is matched by way of a pattern. This amounts to matching it directly against the
whole of a text, character by character (`Wildcard.accepts`): `%` stands for any run of characters
and `_` for any one character, line feeds excepted in both cases, and every other character for
itself, or for all characters with the same simple case folding. The pattern has one part for each
character of the wildcard text, between an anchor at either end (`parts`), and the parts take exactly
the texts that the wildcard text accepts (`takeAll_parts_iff`). So every lawful engine matches the
wildcard text as it stands, unless it refuses the pattern as too large (`matched_like`).
-/

namespace Tabular.Wildcard

open Pattern

/-! ## Direct matching -/

/-- Whether what is left of a text after some run of characters passes a test. Line feeds belong to
no run. -/
def afterRun (test : List Char → Bool) : List Char → Bool
  | [] => test []
  | c :: rest => test (c :: rest) || (c != '\n' && afterRun test rest)

/-- Whether a character of a wildcard text, other than `%`, stands for a character. -/
def admits (ignoreCase : Bool) (w c : Char) : Bool :=
  if w = '_' then c != '\n' else if ignoreCase then foldCase c == foldCase w else c == w

/-- Whether a wildcard text **accepts** the whole of a text. -/
def accepts (ignoreCase : Bool) : List Char → List Char → Bool
  | [], cs => cs.isEmpty
  | w :: ws, cs =>
    if w = '%' then afterRun (accepts ignoreCase ws) cs
    else
      match cs with
      | [] => false
      | c :: rest => admits ignoreCase w c && accepts ignoreCase ws rest

theorem accepts_run (ignoreCase : Bool) (ws cs : List Char) :
    accepts ignoreCase ('%' :: ws) cs = afterRun (accepts ignoreCase ws) cs := by
  cases cs <;> simp [accepts]

theorem accepts_cons_nil (ignoreCase : Bool) {w : Char} (hw : w ≠ '%') (ws : List Char) :
    accepts ignoreCase (w :: ws) [] = false := by
  simp [accepts, hw]

theorem accepts_cons_cons (ignoreCase : Bool) {w : Char} (hw : w ≠ '%') (ws : List Char) (c : Char)
    (rest : List Char) :
    accepts ignoreCase (w :: ws) (c :: rest) =
      (admits ignoreCase w c && accepts ignoreCase ws rest) := by
  simp [accepts, hw]

theorem accepts_cons_iff {ignoreCase : Bool} {w : Char} (hw : w ≠ '%') {ws cs : List Char} :
    accepts ignoreCase (w :: ws) cs = true ↔
      ∃ c rest, cs = c :: rest ∧ admits ignoreCase w c = true ∧
        accepts ignoreCase ws rest = true := by
  cases cs with
  | nil => simp [accepts_cons_nil ignoreCase hw]
  | cons c cs =>
      rw [accepts_cons_cons ignoreCase hw, Bool.and_eq_true]
      constructor
      · intro h
        exact ⟨c, cs, rfl, h⟩
      · rintro ⟨d, rest, hcs, h⟩
        obtain ⟨rfl, rfl⟩ := List.cons.inj hcs
        exact h

/-- A test passes after a run exactly when it passes on what some beginning without line feeds
leaves. -/
theorem afterRun_eq_true_iff {test : List Char → Bool} {cs : List Char} :
    afterRun test cs = true ↔
      ∃ run rest, cs = run ++ rest ∧ '\n' ∉ run ∧ test rest = true := by
  induction cs with
  | nil =>
      constructor
      · intro h
        exact ⟨[], [], rfl, List.not_mem_nil, h⟩
      · rintro ⟨run, rest, hsplit, -, h⟩
        obtain ⟨-, rfl⟩ := List.append_eq_nil_iff.mp hsplit.symm
        exact h
  | cons c cs ih =>
      rw [afterRun, Bool.or_eq_true, Bool.and_eq_true, bne_iff_ne, ih]
      constructor
      · rintro (h | ⟨hc, run, rest, rfl, hrun, h⟩)
        · exact ⟨[], c :: cs, rfl, List.not_mem_nil, h⟩
        · refine ⟨c :: run, rest, rfl, ?_, h⟩
          rw [List.mem_cons, not_or]
          exact ⟨hc.symm, hrun⟩
      · rintro ⟨run, rest, hsplit, hrun, h⟩
        cases run with
        | nil =>
            rw [List.nil_append] at hsplit
            exact .inl (hsplit ▸ h)
        | cons d run =>
            rw [List.cons_append, List.cons.injEq] at hsplit
            obtain ⟨rfl, rfl⟩ := hsplit
            rw [List.mem_cons, not_or] at hrun
            exact .inr ⟨Ne.symm hrun.1, run, rest, rfl, hrun.2, h⟩

/-! ## The parts of the pattern -/

/-- The part of the pattern for a character of a wildcard text. -/
def part (w : Char) : PatternPart :=
  if w = '%' then .star .any else if w = '_' then .one .any else .one (.char w)

/-- The parts of the pattern behind the first anchor. -/
def tail (ws : List Char) : List PatternPart := ws.map part ++ [.textEnd]

/-- The parts of the pattern that a wildcard text stands for. -/
def parts (ws : List Char) : List PatternPart := .textStart :: tail ws

theorem text_part (w : Char) : (part w).text = patternOf w := by
  unfold part patternOf
  split
  · rfl
  split
  · rfl
  · rfl

/-- The pattern text of a wildcard text is the text of its parts. -/
theorem textAll_parts (ws : List Char) : PatternPart.textAll (parts ws) = patternText ws := by
  have hmap : (ws.map part).flatMap PatternPart.text = ws.flatMap patternOf := by
    rw [List.flatMap_map]
    exact congrArg ws.flatMap (funext text_part)
  rw [PatternPart.textAll, parts, tail, List.flatMap_cons, List.flatMap_append, hmap]
  rfl

section

variable {ignoreCase : Bool} {ws cs before run after : List Char}

/-- A `%` takes a run of characters without line feeds. -/
theorem takes_run_iff : (part '%').Takes ignoreCase before run after ↔ '\n' ∉ run := by
  show (∀ c ∈ run, (c != '\n') = true) ↔ _
  simp only [bne_iff_ne]
  exact ⟨fun h hfeed => h _ hfeed rfl, fun h c hc heq => h (heq ▸ hc)⟩

/-- Every other character takes one character that it stands for. -/
theorem takes_part_iff {w : Char} (hw : w ≠ '%') :
    (part w).Takes ignoreCase before run after ↔
      ∃ c, run = [c] ∧ admits ignoreCase w c = true := by
  have hadmits : ∃ s : CharPattern, part w = .one s ∧
      ∀ c, s.admits ignoreCase c = admits ignoreCase w c := by
    unfold part admits
    rw [if_neg hw]
    by_cases hany : w = '_'
    · simp only [if_pos hany]
      exact ⟨_, rfl, fun c => rfl⟩
    · simp only [if_neg hany]
      exact ⟨_, rfl, fun c => rfl⟩
  obtain ⟨s, hpart, hs⟩ := hadmits
  simp only [hpart, PatternPart.Takes, hs]

/-- The parts behind the first anchor take what the wildcard text accepts, to the end of the text. -/
theorem takeAll_tail_iff :
    PatternPart.TakeAll ignoreCase (tail ws) before run after ↔
      after = [] ∧ accepts ignoreCase ws run = true := by
  induction ws generalizing before run with
  | nil =>
      show PatternPart.TakeAll ignoreCase [.textEnd] before run after ↔ _
      simp only [PatternPart.TakeAll, PatternPart.Takes, accepts, List.isEmpty_iff]
      constructor
      · rintro ⟨first, rest, rfl, ⟨rfl, hafter⟩, rfl⟩
        exact ⟨hafter, rfl⟩
      · rintro ⟨rfl, rfl⟩
        exact ⟨[], [], rfl, ⟨rfl, rfl⟩, rfl⟩
  | cons w ws ih =>
      show PatternPart.TakeAll ignoreCase (part w :: tail ws) before run after ↔ _
      simp only [PatternPart.TakeAll, ih]
      by_cases hw : w = '%'
      · subst hw
        simp only [takes_run_iff]
        rw [accepts_run, afterRun_eq_true_iff]
        constructor
        · rintro ⟨first, rest, hrun, hfirst, hafter, hrest⟩
          exact ⟨hafter, first, rest, hrun, hfirst, hrest⟩
        · rintro ⟨hafter, first, rest, hrun, hfirst, hrest⟩
          exact ⟨first, rest, hrun, hfirst, hafter, hrest⟩
      · simp only [takes_part_iff hw]
        rw [accepts_cons_iff hw]
        constructor
        · rintro ⟨first, rest, hrun, ⟨c, rfl, hc⟩, hafter, hrest⟩
          exact ⟨hafter, c, rest, hrun, hc, hrest⟩
        · rintro ⟨hafter, c, rest, hrun, hc, hrest⟩
          exact ⟨[c], rest, hrun, ⟨c, rfl, hc⟩, hafter, hrest⟩

/-- **The parts of a wildcard text take some of a text exactly when the wildcard text accepts the
whole of it.** -/
theorem takeAll_parts_iff :
    (∃ before run after : List Char, cs = before ++ (run ++ after) ∧
        PatternPart.TakeAll ignoreCase (parts ws) before run after) ↔
      accepts ignoreCase ws cs = true := by
  simp only [parts, PatternPart.TakeAll, PatternPart.Takes, takeAll_tail_iff]
  constructor
  · rintro ⟨before, run, after, hcs, first, rest, hrun, ⟨hfirst, hbefore⟩, hafter, haccepts⟩
    rwa [hcs, hbefore, hafter, hrun, hfirst, List.nil_append, List.nil_append, List.append_nil]
  · intro haccepts
    exact ⟨[], cs, [], (List.append_nil cs).symm, [], cs, rfl, ⟨rfl, rfl⟩, rfl, haccepts⟩

end

/-! ## Matching wildcard texts -/

section

variable {E : PatternEngine} {ignoreCase : Bool} {wildcard : String}

/-- The pattern text of a wildcard text is always a pattern. -/
theorem exists_read?_patternText (hE : E.IsLawful) (ignoreCase : Bool) (ws : List Char) :
    ∃ p, E.read? ignoreCase (patternText ws) = some p := by
  rw [← textAll_parts]
  exact Option.isSome_iff_exists.mp (hE.isSome_read? ignoreCase (parts ws))

/-- What a wildcard text is read as occurs in the texts that it accepts. -/
theorem occursIn_eq_accepts (hE : E.IsLawful) {ws : List Char} {p : E.Compiled}
    (hread : E.read? ignoreCase (patternText ws) = some p) (cs : List Char) :
    E.occursIn p cs = accepts ignoreCase ws cs := by
  rw [← textAll_parts] at hread
  rw [Bool.eq_iff_iff, hE.occursIn_iff hread, takeAll_parts_iff]

/-- A wildcard text is compiled to its pattern unless that is too large. -/
theorem compile_like {p : E.Compiled}
    (hread : E.read? ignoreCase (patternText wildcard.toList) = some p) :
    PatternKey.compile ⟨.like, ignoreCase, wildcard⟩ E = if E.fits p then some p else none := by
  show (E.read? ignoreCase (patternText wildcard.toList)).filter E.fits = _
  rw [hread, Option.filter_some]

theorem isSome_compile_like {p : E.Compiled}
    (hread : E.read? ignoreCase (patternText wildcard.toList) = some p) :
    (PatternKey.compile ⟨.like, ignoreCase, wildcard⟩ E).isSome = E.fits p := by
  rw [compile_like hread]
  cases E.fits p <;> rfl

/-- A wildcard text matches the values that it accepts, unless its pattern is too large. -/
theorem any_occursIn_compile_like (hE : E.IsLawful) (ignoreCase : Bool) (wildcard value : String) :
    (PatternKey.compile ⟨.like, ignoreCase, wildcard⟩ E).any (E.occursIn · value.toList) =
      ((PatternKey.compile ⟨.like, ignoreCase, wildcard⟩ E).isSome &&
        accepts ignoreCase wildcard.toList value.toList) := by
  obtain ⟨p, hread⟩ := exists_read?_patternText hE ignoreCase wildcard.toList
  rw [compile_like hread]
  cases E.fits p with
  | true => exact occursIn_eq_accepts hE hread value.toList
  | false => rfl

end

/-! ## The size of the pattern -/

/-- The standard engine reads a wildcard text as the pattern of its parts. -/
theorem isSome_compile_standard {ignoreCase : Bool} {wildcard : String} :
    (PatternKey.compile ⟨.like, ignoreCase, wildcard⟩).isSome =
      (PatternPart.patternAll ignoreCase (parts wildcard.toList)).fits := by
  have hread : PatternEngine.standard.read? ignoreCase (patternText wildcard.toList) =
      some (PatternPart.patternAll ignoreCase (parts wildcard.toList)) := by
    rw [← textAll_parts]
    exact read?_textAll ignoreCase (parts wildcard.toList)
  rw [isSome_compile_like hread]

theorem length_parts (ws : List Char) : (parts ws).length = ws.length + 2 := by
  simp [parts, tail]

/-- A wildcard text of up to a thousand characters is never too large. -/
theorem isSome_compile_of_length_le {ignoreCase : Bool} {wildcard : String}
    (h : wildcard.toList.length ≤ 1000) :
    (PatternKey.compile ⟨.like, ignoreCase, wildcard⟩).isSome = true := by
  rw [isSome_compile_standard]
  refine fits_patternAll_of_le (fun p _ => sizeBound_part_le ignoreCase p) ?_
  rw [length_parts, sizeLimit]
  omega

/-- Without wildcards and with case, a text of up to 32000 characters is never too large. -/
theorem isSome_compile_of_plain {wildcard : String}
    (hplain : ∀ w ∈ wildcard.toList, w ≠ '%' ∧ w ≠ '_') (h : wildcard.toList.length ≤ 32000) :
    (PatternKey.compile ⟨.like, false, wildcard⟩).isSome = true := by
  have hparts : ∀ p ∈ parts wildcard.toList, (p.pattern false).sizeBound ≤ 320 := by
    intro p hp
    rw [parts, tail, List.mem_cons, List.mem_append, List.mem_singleton] at hp
    rcases hp with rfl | hp | rfl
    · decide
    · obtain ⟨w, hw, rfl⟩ := List.mem_map.mp hp
      obtain ⟨hrun, hany⟩ := hplain w hw
      rw [part, if_neg hrun, if_neg hany]
      exact Nat.le_of_eq (sizeBound_char w)
    · decide
  rw [isSome_compile_standard]
  refine fits_patternAll_of_le hparts ?_
  rw [length_parts, sizeLimit]
  omega

/-! ## The main result -/

/-- **Wildcard texts are matched directly**, by any lawful engine. The pattern text of a wildcard
text is always a pattern; and unless that is too large, the wildcard text matches a value exactly
when it accepts the whole of it. To the standard engine the pattern of up to a thousand characters
is not too large. -/
theorem matched_like {E : PatternEngine} (hE : E.IsLawful) (ignoreCase : Bool) (wildcard : String) :
    (∃ p : E.Compiled, E.read? ignoreCase (patternText wildcard.toList) = some p ∧
      ∀ (keys : List PatternKey) (value : String),
        (PatternCache.ofKeys keys E).matched ⟨.like, ignoreCase, wildcard⟩ value =
          (E.fits p && accepts ignoreCase wildcard.toList value.toList)) ∧
    (wildcard.toList.length ≤ 1000 →
      (PatternKey.compile ⟨.like, ignoreCase, wildcard⟩).isSome = true) := by
  obtain ⟨p, hread⟩ := exists_read?_patternText hE ignoreCase wildcard.toList
  refine ⟨⟨p, hread, fun keys value => ?_⟩, isSome_compile_of_length_le⟩
  rw [PatternCache.matched_ofKeys, any_occursIn_compile_like hE, isSome_compile_like hread]

theorem matched_like_escapedSample :
    PatternEngine.standard.IsLawful ∧
      (PatternCache.ofKeys []).matched ⟨.like, true, "a%.c_"⟩ "AxB.cd" = true ∧
      (PatternCache.ofKeys []).matched ⟨.like, true, "a%.c_"⟩ "a\nb.cd" = false := by
  obtain ⟨⟨p, hread, hmatched⟩, hsize⟩ := matched_like standard_isLawful true "a%.c_"
  have hfits : PatternEngine.standard.fits p = true :=
    (isSome_compile_like hread).symm.trans (hsize (by decide +kernel))
  refine ⟨standard_isLawful, ?_, ?_⟩
  · rw [hmatched [] "AxB.cd", hfits]
    decide +kernel
  · rw [hmatched [] "a\nb.cd", hfits]
    decide +kernel

example : accepts false "a%.c_".toList "a\nb.cd".toList = false ∧
    accepts true "a%.c_".toList "AxB.cd".toList = true := by
  decide +kernel

end Tabular.Wildcard
