import Tabular.Proofs.Pattern.Wildcard

set_option autoImplicit false

/-! # A text cell and its own text

A text cell that writes a finite number is read as this number, and compared and matched by the
number's text (`shownText`). A quoted text stays a text. So a text cell need not be equal to the
text that it holds: `1.0` is shown as `1`. It is, and it matches the text as well, exactly when the
text is shown as it stands (`accepts_own`).
-/

namespace Tabular

/-- The text by which a text cell is compared and matched. -/
def shownText (s : String) : String :=
  match parseNumber s with
  | some v => showNumber v
  | none => s

/-- A text cell is a number that is shown as the cell, or the text itself. -/
theorem toText_ofCell_text (s : String) :
    (Scalar.ofCell (some (.text s))).toText = shownText s := by
  show (match parseNumber s with
    | some v => if v.isFinite then Scalar.number v else .text s
    | none => .text s).toText = _
  rw [shownText]
  cases hread : parseNumber s with
  | none => rfl
  | some v =>
      have hfinite : v.isFinite = true := (Option.filter_eq_some_iff.mp hread).2
      show (if v.isFinite then Scalar.number v else .text s).toText = showNumber v
      rw [if_pos hfinite]
      rfl

/-- No scalar is compared with a text as a number. -/
theorem Relation.holds_text (r : Relation) (a : Scalar) (s : String) :
    r.holds a (.text s) = r.holdsText a.toText s := by
  unfold Relation.holds
  split
  · next h => cases h
  · rfl

namespace Wildcard

/-- Without wildcards, a text accepts itself alone. -/
theorem accepts_of_plain {ws : List Char} (hplain : ∀ w ∈ ws, w ≠ '%' ∧ w ≠ '_') (cs : List Char) :
    accepts false ws cs = (cs == ws) := by
  induction ws generalizing cs with
  | nil => cases cs <;> rfl
  | cons w ws ih =>
      obtain ⟨hrun, hany⟩ := hplain w List.mem_cons_self
      cases cs with
      | nil => rw [accepts_cons_nil _ hrun]; rfl
      | cons c rest =>
          have hadmits : admits false w c = (c == w) := by
            rw [admits, if_neg hany]
            rfl
          have htail := ih (fun v hv => hplain v (List.mem_cons_of_mem _ hv)) rest
          rw [accepts_cons_cons _ hrun, hadmits, htail]
          rfl

end Wildcard

namespace Filter

open Condition

variable {E : PatternEngine} {name s : String} {look : Lookup}

/-- A column that holds a text is compared with a quoted text by what it shows. -/
theorem accepts_equal (hlook : look name = some (.text s)) (quoted source : String)
    (patterns : PatternCache E) :
    (Filter.mk (.compare .eq (.column name) (.text quoted)) source patterns).accepts look =
      (shownText s == quoted) := by
  show (Scalar.ofBool (Relation.eq.holds (Scalar.ofCell (look name)) (.text quoted))).isTrue = _
  rw [isTrue_ofBool, Relation.holds_text, hlook, toText_ofCell_text]
  rfl

/-- A column that holds a text is matched against a quoted text by what it shows. -/
theorem accepts_like (hE : E.IsLawful) (hlook : look name = some (.text s))
    (quoted source : String) (keys : List PatternKey) :
    (Filter.mk (.like false false (.column name) (.text quoted)) source
        (PatternCache.ofKeys keys E)).accepts look =
      ((PatternKey.compile ⟨.like, false, quoted⟩ E).isSome &&
        Wildcard.accepts false quoted.toList (shownText s).toList) := by
  show (Scalar.ofBool ((PatternCache.ofKeys keys E).matched ⟨.like, false, quoted⟩
    (Scalar.ofCell (look name)).toText != false)).isTrue = _
  rw [isTrue_ofBool, Bool.bne_false, hlook, toText_ofCell_text, PatternCache.matched_ofKeys,
    Wildcard.any_occursIn_compile_like hE]

/-- **A text cell and its own text**, under any lawful engine. Every text can be asked for in a
condition on a column. The column that holds the text is equal to it exactly when the text is shown
as it stands. A text without wildcards is also matched exactly then, unless it is too large for a
pattern, which it is not to the standard engine for up to 32000 characters. -/
theorem accepts_own (hE : E.IsLawful) (hname : name ≠ "") (hlook : look name = some (.text s)) :
    (∃ f : Filter E, compile (ask name (.relation .eq) s) E = .ok f ∧
      (f.accepts look = true ↔ shownText s = s)) ∧
    ((∀ c ∈ s.toList, c ≠ '%' ∧ c ≠ '_') →
      (∃ f : Filter E, compile (ask name (.like false false) s) E = .ok f ∧
        (f.accepts look = true ↔
          shownText s = s ∧ (PatternKey.compile ⟨.like, false, s⟩ E).isSome = true)) ∧
      (s.toList.length ≤ 32000 → (PatternKey.compile ⟨.like, false, s⟩).isSome = true)) := by
  refine ⟨⟨_, compile_ask hname _ s, ?_⟩, fun hplain => ⟨⟨_, compile_ask hname _ s, ?_⟩, ?_⟩⟩
  · show (Filter.mk (.compare .eq (.column name) (.text s)) _ _).accepts look = true ↔ _
    rw [accepts_equal hlook, beq_iff_eq]
  · show (Filter.mk (.like false false (.column name) (.text s)) _ _).accepts look = true ↔ _
    rw [accepts_like hE hlook, Wildcard.accepts_of_plain hplain, Bool.and_eq_true, beq_iff_eq,
      String.toList_inj, and_comm]
  · exact Wildcard.isSome_compile_of_plain hplain

theorem accepts_own_quotedSample :
    ∃ f g : Filter, compile "X = 'it''s'" = .ok f ∧ compile "X LIKE 'it''s'" = .ok g ∧
      f.accepts (Lookup.ofPairs [("X", .text "it's")]) = true ∧
      g.accepts (Lookup.ofPairs [("X", .text "it's")]) = true := by
  have hequal : ask "X" (.relation .eq) "it's" = "X = 'it''s'" := by decide +kernel
  have hlike : ask "X" (.like false false) "it's" = "X LIKE 'it''s'" := by decide +kernel
  have hlook : Lookup.ofPairs [("X", .text "it's")] "X" = some (.text "it's") := rfl
  have hshown : shownText "it's" = "it's" := by decide +kernel
  have hplain : ∀ c ∈ "it's".toList, c ≠ '%' ∧ c ≠ '_' := by
    rw [show "it's".toList = ['i', 't', '\'', 's'] from rfl]
    simp
  obtain ⟨⟨f, hf, hfaccepts⟩, hmatched⟩ := accepts_own standard_isLawful (by decide) hlook
  obtain ⟨⟨g, hg, hgaccepts⟩, hfits⟩ := hmatched hplain
  exact ⟨f, g, hequal ▸ hf, hlike ▸ hg, hfaccepts.mpr hshown,
    hgaccepts.mpr ⟨hshown, hfits (by decide +kernel)⟩⟩

/-- A text cell that holds `1.0` is neither equal to `'1.0'` nor matched by it. -/
theorem rejects_own_trailingZero :
    ∃ f g : Filter, compile "X = '1.0'" = .ok f ∧ compile "X LIKE '1.0'" = .ok g ∧
      f.accepts (Lookup.ofPairs [("X", .text "1.0")]) = false ∧
      g.accepts (Lookup.ofPairs [("X", .text "1.0")]) = false := by
  have hlook : Lookup.ofPairs [("X", .text "1.0")] "X" = some (.text "1.0") := rfl
  have hequal : ask "X" (.relation .eq) "1.0" = "X = '1.0'" := by decide +kernel
  have hlike : ask "X" (.like false false) "1.0" = "X LIKE '1.0'" := by decide +kernel
  have hshown : shownText "1.0" = "1" := by decide +kernel
  refine ⟨_, _, hequal ▸ compile_ask (by decide) (.relation .eq) "1.0",
    hlike ▸ compile_ask (by decide) (.like false false) "1.0", ?_, ?_⟩
  · exact (accepts_equal hlook "1.0" _ _).trans (by rw [hshown]; decide)
  · refine (accepts_like standard_isLawful hlook "1.0" _ _).trans ?_
    rw [hshown]
    exact Bool.and_false _

end Filter

end Tabular
