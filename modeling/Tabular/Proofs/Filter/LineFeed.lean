import Tabular.Proofs.Filter.OwnText

set_option autoImplicit false

/-! # Wildcards and line feeds

Between two texts without wildcards, a `%` stands for what a value has between these texts, and a
`_` for the one character that it has there. Line feeds are the exception: the value is matched
exactly when there is none between the texts (`matched_between`), so no `%` stands for a part of a
value that goes over several lines (`not_matched_lineFeed`).
-/

namespace Tabular

namespace Wildcard

/-- A wildcard text is **literal** when there is no wildcard in it. -/
def IsLiteral (ws : List Char) : Prop := ∀ w ∈ ws, w ≠ '%' ∧ w ≠ '_'

instance (ws : List Char) : Decidable (IsLiteral ws) :=
  List.decidableBAll (fun w => w ≠ '%' ∧ w ≠ '_') ws

section

variable {ignoreCase : Bool} {u w cs : List Char}

/-- Every character that is no wildcard stands for itself, whether or not case counts. -/
theorem admits_self {c : Char} (hc : c ≠ '_') : admits ignoreCase c c = true := by
  rw [admits, if_neg hc]
  cases ignoreCase <;> simp

/-- A literal beginning is accepted in front of what the rest accepts. -/
theorem accepts_literal_append (hu : IsLiteral u) (ws cs : List Char) :
    accepts ignoreCase (u ++ ws) (u ++ cs) = accepts ignoreCase ws cs := by
  induction u with
  | nil => rfl
  | cons c u ih =>
      obtain ⟨hrun, hany⟩ := hu c List.mem_cons_self
      have htail : IsLiteral u := fun d hd => hu d (List.mem_cons_of_mem c hd)
      rw [List.cons_append, List.cons_append, accepts_cons_cons _ hrun, admits_self hany,
        Bool.true_and, ih htail]

theorem accepts_literal_self (hw : IsLiteral w) : accepts ignoreCase w w = true := by
  have h : accepts ignoreCase (w ++ []) (w ++ []) = accepts ignoreCase [] [] :=
    accepts_literal_append hw [] []
  rwa [List.append_nil] at h

/-- A literal wildcard text accepts only texts of its own length, also when case does not count. -/
theorem length_of_accepts (hw : IsLiteral w) (h : accepts ignoreCase w cs = true) :
    cs.length = w.length := by
  induction w generalizing cs with
  | nil =>
      rw [accepts, List.isEmpty_iff] at h
      rw [h]
  | cons c w ih =>
      obtain ⟨hrun, -⟩ := hw c List.mem_cons_self
      cases cs with
      | nil =>
          rw [accepts_cons_nil _ hrun] at h
          cases h
      | cons d cs =>
          rw [accepts_cons_cons _ hrun, Bool.and_eq_true] at h
          have htail := ih (fun d hd => hw d (List.mem_cons_of_mem c hd)) h.2
          rw [List.length_cons, List.length_cons, htail]

/-- A `%` between literal texts stands for what is there, line feeds apart. -/
theorem accepts_run_between (hu : IsLiteral u) (hw : IsLiteral w) (m : List Char) :
    accepts ignoreCase (u ++ '%' :: w) (u ++ (m ++ w)) = true ↔ '\n' ∉ m := by
  rw [accepts_literal_append hu, accepts_run, afterRun_eq_true_iff]
  constructor
  · rintro ⟨run, rest, hsplit, hrun, hrest⟩
    -- the second text fixes where the run ends
    have hlength : rest.length = w.length := length_of_accepts hw hrest
    obtain ⟨rfl, -⟩ := List.append_inj' hsplit hlength.symm
    exact hrun
  · intro hm
    exact ⟨m, w, rfl, hm, accepts_literal_self hw⟩

/-- A `_` between literal texts stands for the character that is there, a line feed apart. -/
theorem accepts_any_between (hu : IsLiteral u) (hw : IsLiteral w) (c : Char) :
    accepts ignoreCase (u ++ '_' :: w) (u ++ c :: w) = true ↔ c ≠ '\n' := by
  have hadmits : admits ignoreCase '_' c = (c != '\n') := if_pos rfl
  rw [accepts_literal_append hu, accepts_cons_cons _ (by decide), hadmits,
    accepts_literal_self hw, Bool.and_true, bne_iff_ne]

end

/-- **Wildcards stand for everything but line feeds**, to any lawful engine. Take two texts without
wildcards and a value that starts with the one and ends with the other. With `%` between the texts,
the value is matched exactly when it has no line feed between them, whatever else is there; and so it
is with `_` where there is one character between them. In both cases the pattern must not be too
large. -/
theorem matched_between {E : PatternEngine} (hE : E.IsLawful) (ignoreCase : Bool) {u w : String}
    (hu : IsLiteral u.toList) (hw : IsLiteral w.toList) (keys : List PatternKey) :
    (∀ m : String,
      (PatternCache.ofKeys keys E).matched ⟨.like, ignoreCase, u ++ "%" ++ w⟩ (u ++ m ++ w) =
          true ↔
        (PatternKey.compile ⟨.like, ignoreCase, u ++ "%" ++ w⟩ E).isSome = true ∧
          '\n' ∉ m.toList) ∧
    ∀ c : Char,
      (PatternCache.ofKeys keys E).matched ⟨.like, ignoreCase, u ++ "_" ++ w⟩
          (u ++ c.toString ++ w) = true ↔
        (PatternKey.compile ⟨.like, ignoreCase, u ++ "_" ++ w⟩ E).isSome = true ∧ c ≠ '\n' := by
  constructor
  · intro m
    rw [PatternCache.matched_ofKeys, any_occursIn_compile_like hE, Bool.and_eq_true]
    refine and_congr_right fun _ => ?_
    simpa using accepts_run_between hu hw m.toList
  · intro c
    rw [PatternCache.matched_ofKeys, any_occursIn_compile_like hE, Bool.and_eq_true]
    refine and_congr_right fun _ => ?_
    simpa using accepts_any_between hu hw c

theorem matched_between_metaSample :
    (PatternCache.ofKeys []).matched ⟨.like, true, "(a%.)"⟩ "(a%.*\r.)" = true ∧
      (PatternCache.ofKeys []).matched ⟨.like, true, "(a%.)"⟩ "(a\r\n.)" = false := by
  have hu : IsLiteral "(a".toList := by decide +kernel
  have hw : IsLiteral ".)".toList := by decide +kernel
  have hfits : (PatternKey.compile ⟨.like, true, "(a%.)"⟩).isSome = true :=
    isSome_compile_of_length_le (by decide +kernel)
  have hmatched := (matched_between standard_isLawful true hu hw []).1
  refine ⟨(hmatched "%.*\r").mpr ⟨hfits, by decide +kernel⟩, ?_⟩
  rw [Bool.eq_false_iff]
  intro h
  exact ((hmatched "\r\n").mp h).2 (by decide +kernel)

end Wildcard

namespace Filter

open Condition

/-- A `%` and a `_` do not match a value that has a line feed in their place, although both patterns
are small enough. -/
theorem not_matched_lineFeed :
    (∀ ignoreCase : Bool, ∀ wildcard ∈ ["a%b", "a_b"],
      (PatternKey.compile ⟨.like, ignoreCase, wildcard⟩).isSome = true ∧
        PatternCache.matched ([] : PatternCache) ⟨.like, ignoreCase, wildcard⟩ "a\nb" = false) ∧
    ∃ f : Filter, compile "X LIKE 'a%b'" = .ok f ∧
      f.accepts (Lookup.ofPairs [("X", .text "a\nb")]) = false := by
  constructor
  · intro ignoreCase wildcard hwildcard
    have hlength : wildcard.toList.length ≤ 1000 := by
      revert wildcard
      decide +kernel
    have hrejects : Wildcard.accepts ignoreCase wildcard.toList "a\nb".toList = false := by
      revert wildcard ignoreCase
      decide +kernel
    have hmatched :=
      Wildcard.any_occursIn_compile_like standard_isLawful ignoreCase wildcard "a\nb"
    rw [hrejects, Bool.and_false] at hmatched
    exact ⟨Wildcard.isSome_compile_of_length_le hlength, hmatched⟩
  · have hask : ask "X" (.like false false) "a%b" = "X LIKE 'a%b'" := by decide +kernel
    have hlook : Lookup.ofPairs [("X", .text "a\nb")] "X" = some (.text "a\nb") := rfl
    have hshown : shownText "a\nb" = "a\nb" := by decide +kernel
    have hrejects : Wildcard.accepts false "a%b".toList "a\nb".toList = false := by decide +kernel
    refine ⟨_, hask ▸ compile_ask (by decide) (.like false false) "a%b", ?_⟩
    refine (accepts_like standard_isLawful hlook "a%b" _ _).trans ?_
    rw [hshown, hrejects, Bool.and_false]

end Filter

end Tabular
