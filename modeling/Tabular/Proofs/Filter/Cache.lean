import Tabular.Proofs.Condition.Asking

set_option autoImplicit false

/-! # The pattern cache

A filter compiles the patterns of its literals once and keeps them, those that are no patterns
among them. The cache cannot be seen: it gives for any pattern text what compiling the text would
give (`find_ofKeys`), so a filter accepts a row exactly when evaluation with an empty cache does.
And it is complete: wherever in a condition a literal is used as a pattern, the text that evaluation
looks up is there, so only texts that depend on the row are compiled during evaluation
(`accepts_cached`). All of this holds for any engine: it only has to give the same for the same text.
-/

namespace Tabular

variable {E : PatternEngine}

/-! ## What the cache holds -/

namespace PatternCache

/-- Looking up after adding a pattern. -/
theorem lookup_add (cache : PatternCache E) (added key : PatternKey) :
    (cache.add added).lookup key =
      if key = added then some ((cache.lookup key).getD (key.compile E))
      else cache.lookup key := by
  rw [add]
  cases hadded : cache.lookup added with
  | some compiled =>
      by_cases hkey : key = added
      · rw [if_pos hkey, hkey, hadded, Option.getD_some]
      · rw [if_neg hkey]
  | none =>
      rw [List.lookup_cons]
      by_cases hkey : key = added
      · subst hkey
        simp [hadded]
      · have hne : (key == added) = false := by simp [hkey]
        rw [hne, if_neg hkey]

/-- A cache is **faithful** when every entry is what its pattern text compiles to. -/
def Faithful (cache : PatternCache E) : Prop :=
  ∀ (key : PatternKey) (compiled : Option E.Compiled),
    cache.lookup key = some compiled → compiled = key.compile E

theorem Faithful.add {cache : PatternCache E} (h : cache.Faithful) (added : PatternKey) :
    (cache.add added).Faithful := by
  intro key compiled hlookup
  rw [lookup_add] at hlookup
  split at hlookup
  · cases hold : cache.lookup key with
    | none =>
        rw [hold] at hlookup
        exact (Option.some.inj hlookup).symm
    | some old =>
        rw [hold] at hlookup
        exact h key compiled (hold.trans hlookup)
  · exact h key compiled hlookup

theorem Faithful.foldl {cache : PatternCache E} (h : cache.Faithful) (keys : List PatternKey) :
    (keys.foldl PatternCache.add cache).Faithful := by
  induction keys generalizing cache with
  | nil => exact h
  | cons key keys ih => exact ih (h.add key)

theorem faithful_ofKeys (keys : List PatternKey) : (ofKeys keys E).Faithful := by
  refine Faithful.foldl ?_ keys
  intro key compiled h
  cases h

theorem isSome_lookup_foldl (keys : List PatternKey) (cache : PatternCache E) (key : PatternKey) :
    ((keys.foldl add cache).lookup key).isSome = ((cache.lookup key).isSome || key ∈ keys) := by
  induction keys generalizing cache with
  | nil => simp
  | cons added keys ih =>
      rw [List.foldl_cons, ih, lookup_add]
      by_cases hkey : key = added <;> simp [hkey]

/-- The pattern texts that a cache is made from are in it. -/
theorem lookup_ofKeys {keys : List PatternKey} {key : PatternKey} (h : key ∈ keys) :
    (ofKeys keys E).lookup key = some (key.compile E) := by
  have hsome : ((ofKeys keys E).lookup key).isSome = true := by
    rw [ofKeys, isSome_lookup_foldl]
    simp [h]
  obtain ⟨compiled, hcompiled⟩ := Option.isSome_iff_exists.mp hsome
  rw [hcompiled, faithful_ofKeys keys key compiled hcompiled]

/-- **The cache cannot be seen.** -/
theorem find_ofKeys (keys : List PatternKey) (key : PatternKey) :
    (ofKeys keys E).find key = key.compile E := by
  unfold find
  split
  · next compiled hlookup => exact faithful_ofKeys keys key compiled hlookup
  · rfl

theorem matched_ofKeys (keys : List PatternKey) (key : PatternKey) (value : String) :
    (ofKeys keys E).matched key value = (key.compile E).any (E.occursIn · value.toList) := by
  rw [matched, find_ofKeys]

/-- All caches made from pattern texts match alike, the empty one among them. -/
theorem matched_ofKeys_eq_empty (keys : List PatternKey) :
    (ofKeys keys E).matched = PatternCache.matched ([] : PatternCache E) := by
  funext key value
  exact (matched_ofKeys keys key value).trans (matched_ofKeys [] key value).symm

/-- The pattern texts that have to be compiled to look one up: itself, unless it is there. -/
def missing (cache : PatternCache E) (key : PatternKey) : List PatternKey :=
  if (cache.lookup key).isNone then [key] else []

theorem mem_missing {cache : PatternCache E} {key other : PatternKey} :
    other ∈ cache.missing key ↔ other = key ∧ cache.lookup key = none := by
  rw [missing]
  split
  · next h => simp [Option.isNone_iff_eq_none.mp h]
  · next h => simpa [Option.isNone_iff_eq_none] using fun _ => h

end PatternCache

/-! ## Nodes of a condition -/

namespace Condition

/-- A condition is **within** another when it is that condition or within one of its operands. -/
inductive Within (node : Condition) : Condition → Prop
  | self : Within node node
  | operand {p c : Condition} : p ∈ c.operands → Within node p → Within node c

/-- The operand that a condition takes as a pattern, and how it uses the pattern's text. -/
def patternUse? : Condition → Option (Condition × (String → PatternKey))
  | like ignoreCase _ _ wildcard => some (wildcard, PatternKey.mk .like ignoreCase)
  | matching ignoreCase _ pattern => some (pattern, PatternKey.mk .matching ignoreCase)
  | _ => none

/-- The literals: texts and numbers. -/
inductive IsLiteral : Condition → Prop
  | text (s : String) : IsLiteral (.text s)
  | number (v : Float) : IsLiteral (.number v)

/-- The value of a literal has the text that was collected for it. -/
theorem IsLiteral.literalText? {p : Condition} (h : IsLiteral p)
    (matched : PatternKey → String → Bool) (look : Lookup) :
    p.literalText? = some (p.value matched look).toText := by
  cases h <;> rfl

/-- A literal has no patterns of its own. -/
theorem literalPatterns_of_literalText? {p : Condition} {t : String} (h : p.literalText? = some t) :
    p.literalPatterns = [] := by
  cases p with
  | text s => rfl
  | number v => rfl
  | _ => cases h

/-- The patterns of an operand that is taken as a pattern, from the literal it is or else from what
it is made of. -/
theorem literalPatterns_subset_of_use (p : Condition) (use : String → PatternKey) :
    p.literalPatterns ⊆
      match p.literalText? with
      | some t => [use t]
      | none => p.literalPatterns := by
  cases h : p.literalText? with
  | none => exact List.Subset.refl _
  | some t =>
      rw [literalPatterns_of_literalText? h]
      exact List.nil_subset _

/-- The patterns of an operand are among those of the condition. -/
theorem literalPatterns_subset {p c : Condition} (h : p ∈ c.operands) :
    p.literalPatterns ⊆ c.literalPatterns := by
  cases c with
  | column name => cases h
  | number v => cases h
  | text s => cases h
  | not q =>
      rw [List.mem_singleton.mp h]
      exact List.Subset.refl _
  | between negated target low high =>
      simp only [operands, List.mem_cons, List.not_mem_nil, or_false] at h
      intro key hkey
      simp only [literalPatterns, List.mem_append]
      rcases h with rfl | rfl | rfl <;> simp [hkey]
  | like ignoreCase negated value wildcard =>
      simp only [operands, List.mem_cons, List.not_mem_nil, or_false] at h
      intro key hkey
      rw [literalPatterns, List.mem_append]
      rcases h with rfl | rfl
      · exact .inl hkey
      · exact .inr (literalPatterns_subset_of_use _ (PatternKey.mk .like ignoreCase) hkey)
  | matching ignoreCase value pattern =>
      simp only [operands, List.mem_cons, List.not_mem_nil, or_false] at h
      intro key hkey
      rw [literalPatterns, List.mem_append]
      rcases h with rfl | rfl
      · exact .inl hkey
      · exact .inr (literalPatterns_subset_of_use _ (PatternKey.mk .matching ignoreCase) hkey)
  | _ =>
      simp only [operands, List.mem_cons, List.not_mem_nil, or_false] at h
      intro key hkey
      simp only [literalPatterns, List.mem_append]
      rcases h with rfl | rfl <;> simp [hkey]

/-- A condition collects the literal that it takes as a pattern itself. -/
theorem mem_literalPatterns_of_use {c p : Condition} {use : String → PatternKey} {t : String}
    (huse : c.patternUse? = some (p, use)) (hp : p.literalText? = some t) :
    use t ∈ c.literalPatterns := by
  cases c with
  | like ignoreCase negated value wildcard =>
      cases huse
      simp [literalPatterns, hp]
  | matching ignoreCase value pattern =>
      cases huse
      simp [literalPatterns, hp]
  | _ => cases huse

/-- A literal that is taken as a pattern anywhere within a condition is collected. -/
theorem Within.mem_literalPatterns {node c p : Condition} {use : String → PatternKey} {t : String}
    (h : Within node c) (huse : node.patternUse? = some (p, use)) (hp : p.literalText? = some t) :
    use t ∈ c.literalPatterns := by
  induction h with
  | self => exact mem_literalPatterns_of_use huse hp
  | operand hmem _ ih => exact literalPatterns_subset hmem ih

/-! ## Evaluation with a log -/

/-- Evaluation on a row that also keeps a **log**: the pattern texts that are compiled on the way,
because the cache does not have them, each with the operand that it is the text of. -/
def logged (cache : PatternCache E) (look : Lookup) :
    Condition → Scalar × List (Condition × PatternKey)
  | or p q =>
    let a := p.logged cache look
    let b := q.logged cache look
    if a.1.isTrue then (.ofBool true, a.2) else (.ofBool b.1.isTrue, a.2 ++ b.2)
  | and p q =>
    let a := p.logged cache look
    let b := q.logged cache look
    if a.1.isTrue then (.ofBool b.1.isTrue, a.2 ++ b.2) else (.ofBool false, a.2)
  | not p =>
    let a := p.logged cache look
    (.ofBool !a.1.isTrue, a.2)
  | compare r p q =>
    let a := p.logged cache look
    let b := q.logged cache look
    (.ofBool (r.holds a.1 b.1), a.2 ++ b.2)
  | between negated target low high =>
    let t := target.logged cache look
    let a := low.logged cache look
    let b := high.logged cache look
    (.ofBool (isBetween t.1 a.1 b.1 != negated), t.2 ++ a.2 ++ b.2)
  | like ignoreCase negated value wildcard =>
    let v := value.logged cache look
    let w := wildcard.logged cache look
    let key := ⟨.like, ignoreCase, w.1.toText⟩
    (.ofBool (cache.matched key v.1.toText != negated),
      v.2 ++ w.2 ++ (cache.missing key).map (wildcard, ·))
  | matching ignoreCase value pattern =>
    let v := value.logged cache look
    let w := pattern.logged cache look
    let key := ⟨.matching, ignoreCase, w.1.toText⟩
    (.ofBool (cache.matched key v.1.toText), v.2 ++ w.2 ++ (cache.missing key).map (pattern, ·))
  | column name => (.ofCell (look name), [])
  | number v => (.number v, [])
  | text s => (.text s, [])

/-- The log leaves the value as it is. -/
theorem fst_logged (cache : PatternCache E) (look : Lookup) (c : Condition) :
    (c.logged cache look).1 = c.value cache.matched look := by
  induction c with
  | or p q ihp ihq =>
      simp only [logged, value, ← ihp, ← ihq]
      cases (p.logged cache look).1.isTrue <;> rfl
  | and p q ihp ihq =>
      simp only [logged, value, ← ihp, ← ihq]
      cases (p.logged cache look).1.isTrue <;> rfl
  | not p ih => simp only [logged, value, ← ih]
  | compare r p q ihp ihq => simp only [logged, value, ← ihp, ← ihq]
  | between negated target low high iht ihlow ihhigh =>
      simp only [logged, value, ← iht, ← ihlow, ← ihhigh]
  | like ignoreCase negated v w ihv ihw => simp only [logged, value, ← ihv, ← ihw]
  | matching ignoreCase v w ihv ihw => simp only [logged, value, ← ihv, ← ihw]
  | _ => rfl

/-- A condition **misses** the text of the operand that it takes as a pattern when the cache does
not have it. -/
def Misses (cache : PatternCache E) (look : Lookup) (c : Condition) (entry : Condition × PatternKey) :
    Prop :=
  ∃ use : String → PatternKey, c.patternUse? = some (entry.1, use) ∧
    entry.2 = use (entry.1.value cache.matched look).toText ∧ cache.lookup entry.2 = none

theorem misses_of_mem_missing {cache : PatternCache E} {look : Lookup} {c p : Condition}
    {entry : Condition × PatternKey} (use : String → PatternKey)
    (huse : c.patternUse? = some (p, use))
    (h : entry ∈ (cache.missing (use (p.logged cache look).1.toText)).map (p, ·)) :
    c.Misses cache look entry := by
  obtain ⟨key, hkey, rfl⟩ := List.mem_map.mp h
  obtain ⟨rfl, hlookup⟩ := PatternCache.mem_missing.mp hkey
  rw [fst_logged] at hlookup ⊢
  exact ⟨use, huse, rfl, hlookup⟩

/-- An entry of the log is one of an operand's log, or the condition's own. -/
theorem mem_logged {cache : PatternCache E} {look : Lookup} {c : Condition}
    {entry : Condition × PatternKey} (h : entry ∈ (c.logged cache look).2) :
    (∃ p ∈ c.operands, entry ∈ (p.logged cache look).2) ∨ c.Misses cache look entry := by
  cases c with
  | or p q =>
      simp only [logged] at h
      split at h
      · exact .inl ⟨p, by simp [operands], h⟩
      · simpa [operands] using .inl (List.mem_append.mp h)
  | and p q =>
      simp only [logged] at h
      split at h
      · simpa [operands] using .inl (List.mem_append.mp h)
      · exact .inl ⟨p, by simp [operands], h⟩
  | not p => exact .inl ⟨p, by simp [operands], h⟩
  | compare r p q => simpa [operands] using .inl (List.mem_append.mp h)
  | between negated target low high =>
      simp only [logged, List.mem_append, or_assoc] at h
      simpa [operands] using .inl h
  | like ignoreCase negated value wildcard =>
      rcases List.mem_append.mp h with h | h
      · exact .inl (by simpa [operands] using List.mem_append.mp h)
      · exact .inr (misses_of_mem_missing (PatternKey.mk .like ignoreCase) rfl h)
  | matching ignoreCase value pattern =>
      rcases List.mem_append.mp h with h | h
      · exact .inl (by simpa [operands] using List.mem_append.mp h)
      · exact .inr (misses_of_mem_missing (PatternKey.mk .matching ignoreCase) rfl h)
  | column name | number v | text s => cases h

/-- Every entry of the log is missed by a condition within. -/
theorem exists_misses_of_mem_logged {cache : PatternCache E} {look : Lookup} {c : Condition}
    {entry : Condition × PatternKey} (h : entry ∈ (c.logged cache look).2) :
    ∃ node : Condition, Within node c ∧ node.Misses cache look entry := by
  induction c using operands_induction with
  | step c ih =>
      rcases mem_logged h with ⟨p, hp, hentry⟩ | hown
      · obtain ⟨node, hwithin, hmisses⟩ := ih p hp hentry
        exact ⟨node, .operand hp hwithin, hmisses⟩
      · exact ⟨c, .self, hown⟩

end Condition

/-! ## Compiled filters -/

namespace Filter

theorem patterns_of_compile {text : String} {f : Filter E} (h : compile text E = .ok f) :
    f.patterns = PatternCache.ofKeys f.condition.literalPatterns E := by
  obtain ⟨c, -, rfl⟩ := compile_eq_ok h
  rfl

/-- A literal that is taken as a pattern anywhere within the condition of a compiled filter is in
the cache, under the text that evaluation looks up. -/
theorem lookup_patterns {text : String} {f : Filter E} (h : compile text E = .ok f)
    {node p : Condition} {use : String → PatternKey} (hwithin : node.Within f.condition)
    (huse : node.patternUse? = some (p, use)) (hp : p.IsLiteral) (look : Lookup) :
    f.patterns.lookup (use (p.value f.patterns.matched look).toText) =
      some ((use (p.value f.patterns.matched look).toText).compile E) := by
  have hmem := hwithin.mem_literalPatterns huse (hp.literalText? f.patterns.matched look)
  rw [patterns_of_compile h] at hmem ⊢
  exact PatternCache.lookup_ofKeys hmem

/-- **The cache cannot be seen, and it is complete**, whatever engine compiles the patterns. A
compiled filter accepts a row exactly when evaluation that compiles every pattern afresh does; a
pattern text matches as it does when it is compiled afresh, wherever it comes from; every literal
that is taken as a pattern is found in the cache, under the text that evaluation looks up; and of the
pattern texts that are compiled during evaluation none is that of a literal. -/
theorem accepts_cached {text : String} {f : Filter E} (h : compile text E = .ok f) :
    (∀ look : Lookup, f.accepts look =
      (f.condition.value (PatternCache.matched ([] : PatternCache E)) look).isTrue) ∧
    (∀ (key : PatternKey) (value : String),
      f.patterns.matched key value = (key.compile E).any (E.occursIn · value.toList)) ∧
    (∀ (node p : Condition) (use : String → PatternKey), node.Within f.condition →
      node.patternUse? = some (p, use) → p.IsLiteral → ∀ look : Lookup,
        f.patterns.lookup (use (p.value f.patterns.matched look).toText) =
          some ((use (p.value f.patterns.matched look).toText).compile E)) ∧
    (∀ look : Lookup,
      (f.condition.logged f.patterns look).1 = f.condition.value f.patterns.matched look ∧
      ∀ entry ∈ (f.condition.logged f.patterns look).2, ¬ entry.1.IsLiteral) := by
  have hpatterns := patterns_of_compile h
  refine ⟨fun look => ?_, fun key value => ?_, fun node p use hwithin huse hp look => ?_,
    fun look => ⟨Condition.fst_logged _ _ _, fun entry hentry hliteral => ?_⟩⟩
  · rw [accepts, hpatterns, PatternCache.matched_ofKeys_eq_empty]
  · rw [hpatterns, PatternCache.matched_ofKeys]
  · exact lookup_patterns h hwithin huse hp look
  · obtain ⟨node, hwithin, use, huse, hkey, hmissing⟩ :=
      Condition.exists_misses_of_mem_logged hentry
    have hfound := lookup_patterns h hwithin huse hliteral look
    rw [← hkey, hmissing] at hfound
    cases hfound

/-- The text of a filter whose only pattern is none. -/
def unclosedSample : String := Condition.ask "c" (.matching false) "("

theorem accepts_cached_unclosedSample :
    unclosedSample = "c ~ '('" ∧
      ∃ f : Filter, compile unclosedSample = .ok f ∧
        (∀ look : Lookup, f.accepts look =
          (f.condition.value (PatternCache.matched ([] : PatternCache)) look).isTrue) ∧
        f.patterns.lookup ⟨.matching, false, "("⟩ = some none ∧
        ∀ look : Lookup, ∀ entry ∈ (f.condition.logged f.patterns look).2,
          ¬ entry.1.IsLiteral := by
  have hcompile :=
    Condition.compile_ask (E := .standard) (show "c" ≠ "" by decide) (.matching false) "("
  obtain ⟨haccepts, -, hfound, hlogged⟩ := accepts_cached hcompile
  have hnone : PatternKey.compile ⟨.matching, false, "("⟩ = none := by decide +kernel
  refine ⟨by decide +kernel, _, hcompile, haccepts, ?_, fun look => (hlogged look).2⟩
  rw [← hnone]
  exact hfound _ _ _ .self rfl (.text "(") (Lookup.ofPairs [])

end Filter

end Tabular
