import Tabular.Proofs.Condition.Embedding
import Tabular.Proofs.Filter.Cache
import Tabular.Proofs.Filter.OwnText
import Tabular.Proofs.Formula.Embedding
import Tabular.Proofs.Program.RowByRow

set_option autoImplicit false

/-! # Composing texts

Texts that compile are put together in parentheses, and the result compiles to what the parts do,
put together in the same way. For conditions this holds when there is room for two more levels of
nesting (`NestsWithin`); a program then may ask for both of two conditions at once instead of one
after the other.
-/

namespace Tabular

/-! ## Filters -/

namespace Condition

/-- A text **nests within** some levels when its parentheses and negations enclose each other no
deeper. -/
def NestsWithin (levels : Nat) (text : String) : Prop :=
  ∃ (tokens : List Token) (a : Tree), Token.ofText text.toList = .ok tokens ∧
    Derives (.chain .or) tokens a ∧ a.nesting ≤ levels

/-- The text of a condition nests as deep as the condition. -/
theorem nestsWithin_print {c : Condition} {levels : Nat}
    (hnumbers : ∀ v ∈ c.numbers, Scans (showNumber v) [.number v])
    (hcolumns : ∀ name ∈ c.columns, name ≠ "") (hlevels : c.nesting ≤ levels) :
    NestsWithin levels c.print := by
  obtain ⟨tokens, a, htokens, ha, -, hnesting⟩ :=
    exists_derives_of_writes (scans_print hnumbers).lexes (writes_lexemes hcolumns)
  exact ⟨tokens, a, htokens, ha, Nat.le_trans hnesting hlevels⟩

end Condition

namespace Filter

open Condition

variable {f g : String} {F G : Filter}

/-- A compiled filter accepts what its condition does, with any cache. -/
theorem accepts_of_compile (h : compile f = .ok F) (look : Lookup) :
    F.accepts look = (F.condition.value (PatternCache.matched ([] : PatternCache)) look).isTrue := by
  rw [accepts, patterns_of_compile h, PatternCache.matched_ofKeys_eq_empty]

/-- A text that nests within what may be read encloses its condition in parentheses. -/
theorem exists_encloses {levels : Nat} (h : compile f = .ok F) (hnests : NestsWithin levels f)
    (hlevels : levels ≤ nestingLimit) :
    ∃ n ≤ levels + 1, Encloses (enclose f) F.condition n := by
  obtain ⟨tokens, a, htokens, ha, hnesting⟩ := hnests
  have hread : ofText f.toList = .ok a.ast := by
    rw [ofText, htokens]
    exact ofTokens_of_derives ha (Nat.le_trans hnesting hlevels)
  -- the tokens have one reading, so the tree at hand writes the condition of the filter
  have hcondition : F.condition = a.ast := by
    have hsame := (ofText_of_compile h).symm.trans hread
    injection hsame
  exact ⟨a.nesting + 1, Nat.succ_le_succ hnesting, hcondition ▸ encloses_enclose htokens ha⟩

section

variable (hF : compile f = .ok F) (hnests : NestsWithin (nestingLimit - 2) f)
include hF hnests

/-- Two texts in parentheses with a connective between them compile to the conditions of both,
joined. -/
theorem exists_compile_join (k : Connective) (hG : compile g = .ok G)
    (hnests' : NestsWithin (nestingLimit - 2) g) :
    ∃ H : Filter, compile (enclose f ++ k.text ++ enclose g) = .ok H ∧
      H.condition = k.join F.condition G.condition := by
  obtain ⟨m, hm, hf⟩ := exists_encloses hF hnests (by decide)
  obtain ⟨n, hn, hg⟩ := exists_encloses hG hnests' (by decide)
  have hlimit : nestingLimit - 2 + 1 ≤ nestingLimit := by decide
  have hread := hf.ofText_join k hg (Nat.le_trans hm hlimit) (Nat.le_trans hn hlimit)
  exact ⟨_, compile_of_ofText hread, rfl⟩

/-- A text in parentheses after `NOT` compiles to the negation of its condition. -/
theorem exists_compile_not :
    ∃ H : Filter, compile ("NOT " ++ enclose f) = .ok H ∧ H.condition = .not F.condition := by
  obtain ⟨n, hn, hf⟩ := exists_encloses hF hnests (by decide)
  -- the parentheses are one level and the negation is the other
  have hlimit : nestingLimit - 2 + 1 + 1 ≤ nestingLimit := by decide
  have hread := hf.ofText_not (Nat.le_trans (Nat.succ_le_succ hn) hlimit)
  exact ⟨_, compile_of_ofText hread, rfl⟩

end

end Filter

/-! ## Programs -/

/-- The headers and the rows of a table. -/
def Table.contents (t : Table) : List String × List Row := (t.headers, t.rows)

/-- What a transform compiles to. -/
inductive Transform.Compiles : Transform → Step → Prop
  | keepMatching (column : String) (test : TextTest) (value : TextValue) (caseSensitive : Bool) :
      Compiles (.keepMatching column test value caseSensitive)
        (.keepMatching column (.create test value caseSensitive))
  | keepWhere {text : String} {f : Filter} (hf : Filter.compile text = .ok f) :
      Compiles (.keepWhere text) (.keepWhere f)
  | average (columns : List String) (out : String) :
      Compiles (.average columns out) (.average columns out)
  | compute (column : String) {text : String} {f : Formula}
      (hf : Formula.compile text .extended = .ok f) :
      Compiles (.compute column text) (.compute column f)
  | append (other : Table) : Compiles (.append other) (.append other)

theorem Transform.compiles_of_step {t : Transform} {step : Step}
    (h : Step.ofTransform t = .ok step) : t.Compiles step := by
  cases t with
  | keepMatching column test value caseSensitive =>
      cases h
      exact .keepMatching ..
  | keepWhere text =>
      obtain ⟨f, hf, hstep⟩ := bind_eq_ok h
      cases hstep
      exact .keepWhere hf
  | average columns out =>
      cases h
      exact .average ..
  | compute column text =>
      obtain ⟨f, hf, hstep⟩ := bind_eq_ok h
      cases hstep
      exact .compute _ hf
  | append other =>
      cases h
      exact .append _

theorem Step.ofTransform_keepWhere {text : String} {F : Filter}
    (h : Filter.compile text = .ok F) : ofTransform (.keepWhere text) = .ok (keepWhere F) := by
  rw [ofTransform, h]
  rfl

/-- Keeping the rows that satisfy two conditions, one after the other, is keeping those that satisfy
both at once. -/
theorem Step.run_keepWhere_keepWhere {F G H : Filter}
    (h : ∀ look : Lookup, H.accepts look = (F.accepts look && G.accepts look)) (t : Table) :
    (keepWhere G).run ((keepWhere F).run t) = (keepWhere H).run t := by
  simp only [run, List.filter_filter]
  congr 1
  refine List.filter_congr fun row _ => ?_
  rw [h, Bool.and_comm]

namespace Program

/-- Whether transforms compile, and to what steps, does not depend on the place where they stand. -/
theorem toOption_compileFrom (index : Nat) (p : Program) :
    (compileFrom index p).toOption = p.mapM fun t => (Step.ofTransform t).toOption := by
  induction p generalizing index with
  | nil => rfl
  | cons t p ih =>
      rw [compileFrom, List.mapM_cons, ← ih (index + 1)]
      cases Step.ofTransform t with
      | error fault => rfl
      | ok step =>
          cases compileFrom (index + 1) p with
          | error fault => rfl
          | ok steps => rfl

/-- What a program makes of a table, apart from its name, is what its steps do. -/
theorem contents_apply (p : Program) (base : Table) :
    (p.apply base).toOption.map Table.contents =
      (p.mapM fun t => (Step.ofTransform t).toOption).map fun steps =>
        (Step.runAll steps base).contents := by
  rw [← toOption_compileFrom 0 p, apply, compile]
  cases compileFrom 0 p with
  | error fault => rfl
  | ok steps =>
      show some (Table.contents (CompiledProgram.apply ⟨steps, summarize p⟩ base)) = _
      rw [Table.contents, CompiledProgram.headers_apply, CompiledProgram.rows_apply]
      rfl

/-- What some transforms make of a table, if all of them compile. -/
def effect (p : Program) (t : Table) : Option Table :=
  (p.mapM fun t => (Step.ofTransform t).toOption).map fun steps => Step.runAll steps t

theorem effect_nil (t : Table) : effect [] t = some t := rfl

/-- The effect of transforms in a row is that of the first, and then that of the others. -/
theorem effect_cons (first : Transform) (p : Program) (t : Table) :
    effect (first :: p) t =
      (Step.ofTransform first).toOption.bind fun step => effect p (step.run t) := by
  rw [effect, List.mapM_cons]
  cases (Step.ofTransform first).toOption with
  | none => rfl
  | some step =>
      unfold effect
      cases p.mapM fun t => (Step.ofTransform t).toOption with
      | none => rfl
      | some steps => rfl

theorem effect_append (p q : Program) (t : Table) :
    effect (p ++ q) t = (effect p t).bind (effect q) := by
  induction p generalizing t with
  | nil => rfl
  | cons first p ih =>
      rw [List.cons_append, effect_cons, effect_cons]
      cases (Step.ofTransform first).toOption with
      | none => rfl
      | some step => exact ih (step.run t)

theorem contents_apply_eq_effect (p : Program) (base : Table) :
    (p.apply base).toOption.map Table.contents = (effect p base).map Table.contents := by
  rw [contents_apply, effect, Option.map_map]
  rfl

/-- **Programs are congruent.** Some transforms of a program can be replaced by others with the same
effect. -/
theorem contents_congr {old new : Program} (h : ∀ t : Table, effect old t = effect new t)
    (before after : Program) (base : Table) :
    ((before ++ (old ++ after)).apply base).toOption.map Table.contents =
      ((before ++ (new ++ after)).apply base).toOption.map Table.contents := by
  rw [contents_apply_eq_effect, contents_apply_eq_effect, effect_append, effect_append]
  congr 2
  funext t
  rw [effect_append, effect_append, h]

section

variable {f g both : String} {F G H : Filter} (hF : Filter.compile f = .ok F)
  (hG : Filter.compile g = .ok G) (hH : Filter.compile both = .ok H)
  (h : ∀ look : Lookup, H.accepts look = (F.accepts look && G.accepts look))
include hF hG hH h

/-- In any program, two conditions that are asked for one after the other can be asked for at once.
-/
theorem contents_keepWhere (before after : Program) (base : Table) :
    ((before ++ .keepWhere f :: .keepWhere g :: after).apply base).toOption.map Table.contents =
      ((before ++ .keepWhere both :: after).apply base).toOption.map Table.contents := by
  have heffect (t : Table) :
      effect [.keepWhere f, .keepWhere g] t = effect [.keepWhere both] t := by
    simp only [effect_cons, effect_nil, Step.ofTransform_keepWhere hF,
      Step.ofTransform_keepWhere hG, Step.ofTransform_keepWhere hH]
    exact congrArg some (Step.run_keepWhere_keepWhere h t)
  exact contents_congr heffect before after base

/-- The program of both conditions and that of the one for both run, to the same rows. -/
theorem exists_apply_keepWhere (base : Table) : ∃ twice once : Table,
    apply [.keepWhere f, .keepWhere g] base = .ok twice ∧
      apply [.keepWhere both] base = .ok once ∧
      twice.headers = once.headers ∧ twice.rows = once.rows := by
  have htwice : compile [.keepWhere f, .keepWhere g] =
      .ok ⟨[.keepWhere F, .keepWhere G], summarize [.keepWhere f, .keepWhere g]⟩ := by
    simp only [compile, compileFrom, Step.ofTransform_keepWhere hF, Step.ofTransform_keepWhere hG]
    rfl
  have honce : compile [.keepWhere both] =
      .ok ⟨[.keepWhere H], summarize [.keepWhere both]⟩ := by
    simp only [compile, compileFrom, Step.ofTransform_keepWhere hH]
    rfl
  have hrun := Step.run_keepWhere_keepWhere h base
  refine ⟨_, _, by rw [apply, htwice]; rfl, by rw [apply, honce]; rfl, ?_, ?_⟩
  · rw [CompiledProgram.headers_apply, CompiledProgram.headers_apply]
    exact congrArg Table.headers hrun
  · rw [CompiledProgram.rows_apply, CompiledProgram.rows_apply]
    exact congrArg Table.rows hrun

end

end Program

/-! ## Composing -/

open Condition in
/-- **Texts in parentheses compose.** Two conditions whose texts compile, and nest no deeper than
two levels less than may be read, are joined by `AND` and by `OR` and are negated by `NOT` in
parentheses: the texts compile, to the conjunction, the disjunction and the negation of the
conditions, and accept the rows accordingly. So a program that asks for one condition after the
other has the rows of one that asks for both at once, also as a part of a greater program. And the
texts of formulas that compile, in parentheses, are the operands of any operator, of a minus sign
and of any function. -/
theorem compile_composed :
    (∀ (f g : String) (F G : Filter), Filter.compile f = .ok F → Filter.compile g = .ok G →
      NestsWithin 254 f → NestsWithin 254 g → ∃ both either negated : Filter,
        Filter.compile (enclose f ++ " AND " ++ enclose g) = .ok both ∧
        Filter.compile (enclose f ++ " OR " ++ enclose g) = .ok either ∧
        Filter.compile ("NOT " ++ enclose f) = .ok negated ∧
        both.condition = .and F.condition G.condition ∧
        either.condition = .or F.condition G.condition ∧
        negated.condition = .not F.condition ∧
        (∀ look : Lookup, both.accepts look = (F.accepts look && G.accepts look) ∧
          either.accepts look = (F.accepts look || G.accepts look) ∧
          negated.accepts look = !F.accepts look) ∧
        (∀ base : Table, ∃ twice once : Table,
          Program.apply [.keepWhere f, .keepWhere g] base = .ok twice ∧
          Program.apply [.keepWhere (enclose f ++ " AND " ++ enclose g)] base = .ok once ∧
          twice.headers = once.headers ∧ twice.rows = once.rows) ∧
        ∀ (before after : Program) (base : Table),
          ((before ++ .keepWhere f :: .keepWhere g :: after).apply base).toOption.map
              Table.contents =
            ((before ++ .keepWhere (enclose f ++ " AND " ++ enclose g) :: after).apply
              base).toOption.map Table.contents) ∧
    (∀ (a : String) (A : Formula), Formula.compile a .extended = .ok A →
      (∃ C : Formula, Formula.compile ("-(" ++ a ++ ")") .extended = .ok C ∧
        C.steps = .number 0 :: A.steps ++ [.operator .sub]) ∧
      ∀ (b : String) (B : Formula), Formula.compile b .extended = .ok B →
        ∀ o : Formula.Operator, ∃ C : Formula,
          Formula.compile ("(" ++ a ++ ") " ++ o.symbol ++ " (" ++ b ++ ")") .extended = .ok C ∧
            C.steps = A.steps ++ B.steps ++ [.operator o]) ∧
    ∀ (f : Formula.Function) (texts : List String) (formulas : List Formula),
      texts.length = f.arity →
      List.Forall₂ (fun t F => Formula.compile t .extended = .ok F) texts formulas →
        ∃ C : Formula,
          Formula.compile (f.name ++ "(" ++ ", ".intercalate texts ++ ")") .extended = .ok C ∧
            C.steps = formulas.flatMap Formula.steps ++ [.function f] := by
  refine ⟨?_, ?_, ?_⟩
  · intro f g F G hF hG hf hg
    obtain ⟨both, hboth, hand⟩ := Filter.exists_compile_join hF hf .and hG hg
    obtain ⟨either, heither, hor⟩ := Filter.exists_compile_join hF hf .or hG hg
    obtain ⟨negated, hnegated, hnot⟩ := Filter.exists_compile_not hF hf
    have haccepts : ∀ look : Lookup, both.accepts look = (F.accepts look && G.accepts look) := by
      intro look
      rw [Filter.accepts_of_compile hboth, hand, Filter.accepts_of_compile hF,
        Filter.accepts_of_compile hG]
      exact isTrue_ofBool _
    refine ⟨both, either, negated, hboth, heither, hnegated, hand, hor, hnot,
      fun look => ⟨haccepts look, ?_, ?_⟩, Program.exists_apply_keepWhere hF hG hboth haccepts,
      Program.contents_keepWhere hF hG hboth haccepts⟩
    · rw [Filter.accepts_of_compile heither, hor, Filter.accepts_of_compile hF,
        Filter.accepts_of_compile hG]
      exact isTrue_ofBool _
    · rw [Filter.accepts_of_compile hnegated, hnot, Filter.accepts_of_compile hF]
      exact isTrue_ofBool _
  · intro a A hA
    have ha := Formula.renders_of_compile hA
    refine ⟨ha.minus.compile, fun b B hB o => ?_⟩
    exact (ha.binary o (Formula.renders_of_compile hB)).compile
  · intro f texts formulas harity hall
    have hne : texts ≠ [] := List.ne_nil_of_length_pos (harity ▸ f.arity_pos)
    exact ((Formula.rendersAll_of_compile hall hne).call harity).compile

/-- A condition with a parenthesis in the name of its column and in a text. -/
def halfOpenSample : Condition := .between true (.column "a)") (.number 1) (.text "(9")

open Condition in
theorem compile_composed_halfOpenSample :
    (∃ F both : Filter, Filter.compile halfOpenSample.print = .ok F ∧
      NestsWithin 254 halfOpenSample.print ∧
      Filter.compile (enclose halfOpenSample.print ++ " AND " ++ enclose halfOpenSample.print) =
        .ok both ∧
      both.condition = .and halfOpenSample halfOpenSample) ∧
    ∃ A B C : Formula, Formula.compile "\x7ba)\x7d" .extended = .ok A ∧
      Formula.compile "(\x7ba)\x7d) ^ (\x7ba)\x7d)" .extended = .ok B ∧
      B.steps = [.column "a)", .column "a)", .operator .pow] ∧
      Formula.compile "max(\x7ba)\x7d, \x7ba)\x7d)" .extended = .ok C ∧
      C.steps = [.column "a)", .column "a)", .function .max] := by
  have hnumbers : ∀ v ∈ halfOpenSample.numbers, Scans (showNumber v) [.number v] := by
    intro v hv
    obtain rfl := List.mem_singleton.mp hv
    exact scans_showNumber (by decide +kernel) (by decide +kernel) (by decide +kernel)
  have hcolumns : ∀ name ∈ halfOpenSample.columns, name ≠ "" := by decide
  have hcompile := Filter.compile_of_ofText (E := .standard)
    (ofText_of_writes (scans_print hnumbers).lexes (writes_lexemes hcolumns) (by decide))
  have hnests : NestsWithin 254 halfOpenSample.print :=
    nestsWithin_print hnumbers hcolumns (by decide)
  obtain ⟨both, -, -, hboth, -, -, hand, -⟩ :=
    compile_composed.1 _ _ _ _ hcompile hcompile hnests hnests
  have hname : Formula.FitsInBraces "a)" := by decide
  obtain ⟨A, hA, hsteps⟩ := (Formula.renders_column hname).compile
  obtain ⟨B, hB, hpower⟩ := (compile_composed.2.1 _ A hA).2 _ A hA .pow
  obtain ⟨C, hC, hmax⟩ :=
    compile_composed.2.2 .max [_, _] [A, A] rfl (.cons hA (.cons hA .nil))
  rw [hsteps] at hpower
  simp only [List.flatMap_cons, List.flatMap_nil, hsteps] at hmax
  exact ⟨⟨_, both, hcompile, hnests, hboth, hand⟩, A, B, C, hA, hB, hpower, hC, hmax⟩

example : halfOpenSample.print = "(\x7b'a)'\x7d) NOT BETWEEN (1) AND ('(9')" := by decide +kernel

end Tabular
