import Tabular.Condition.Parser
import Tabular.Pattern.Engine
import Tabular.Pattern.Wildcard

set_option autoImplicit false

/-! # Filters

A filter is a compiled condition: the condition, the text it was read from, and the patterns of its
literals, compiled once by an engine. A pattern whose text depends on the row is compiled when it is
needed. A text that is no pattern never matches.
-/

namespace Tabular

/-! ## Compiled patterns -/

/-- Compiles a pattern text for its use. -/
def PatternKey.compile (key : PatternKey) (E : PatternEngine := .standard) : Option E.Compiled :=
  match key.use with
  | .like => E.compile? key.ignoreCase (Wildcard.patternText key.text.toList)
  | .matching => E.compile? key.ignoreCase key.text.toList

/-- The compiled patterns of a filter, with `none` for a text that is no pattern. -/
abbrev PatternCache (E : PatternEngine := .standard) := List (PatternKey × Option E.Compiled)

namespace PatternCache

variable {E : PatternEngine}

/-- Compiles a pattern unless that has been done. -/
def add (cache : PatternCache E) (key : PatternKey) : PatternCache E :=
  match cache.lookup key with
  | some _ => cache
  | none => (key, key.compile E) :: cache

/-- The compiled patterns of some pattern texts. -/
def ofKeys (keys : List PatternKey) (E : PatternEngine := .standard) : PatternCache E :=
  keys.foldl add []

/-- The compiled pattern of a pattern text, from the cache if it is there. -/
def find (cache : PatternCache E) (key : PatternKey) : Option E.Compiled :=
  match cache.lookup key with
  | some compiled => compiled
  | none => key.compile E

/-- Whether a pattern text matches a value. -/
def matched (cache : PatternCache E) (key : PatternKey) (value : String) : Bool :=
  (cache.find key).any (E.occursIn · value.toList)

end PatternCache

/-! ## Filters -/

/-- A **filter** is a compiled condition. -/
structure Filter (E : PatternEngine := .standard) where
  condition : Condition
  source : String
  patterns : PatternCache E

namespace Filter

variable {E : PatternEngine} {text : String}

/-- Two filters are equal when their conditions and their texts are. -/
instance : BEq (Filter E) := ⟨fun f g => f.condition == g.condition && f.source == g.source⟩

/-- Compiles a text. -/
def compile (text : String) (E : PatternEngine := .standard) : Except Fault (Filter E) := do
  let condition ← Condition.ofText text.toList
  pure ⟨condition, text, PatternCache.ofKeys condition.literalPatterns E⟩

theorem compile_of_ofText {c : Condition} (h : Condition.ofText text.toList = .ok c) :
    compile text E = .ok ⟨c, text, PatternCache.ofKeys c.literalPatterns E⟩ := by
  rw [compile, h]
  rfl

theorem compile_eq_ok {f : Filter E} (h : compile text E = .ok f) :
    ∃ c : Condition, Condition.ofText text.toList = .ok c ∧
      f = ⟨c, text, PatternCache.ofKeys c.literalPatterns E⟩ := by
  obtain ⟨c, hc, hf⟩ := bind_eq_ok h
  cases hf
  exact ⟨c, hc, rfl⟩

theorem ofText_of_compile {f : Filter E} (h : compile text E = .ok f) :
    Condition.ofText text.toList = .ok f.condition := by
  obtain ⟨c, hc, rfl⟩ := compile_eq_ok h
  exact hc

/-- Whether a filter accepts a row. -/
def accepts (f : Filter E) (look : Lookup) : Bool :=
  (f.condition.value f.patterns.matched look).isTrue

end Filter

end Tabular
