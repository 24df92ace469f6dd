import Mathlib.Data.List.Induction
import Tabular.Proofs.Formula.Compile
import Tabular.Style

set_option autoImplicit false

/-! # The last rule that sets a property decides it

A rule matches a row when its formula is true there: its value is a number that is neither zero nor
not-a-number. Among the rules that match, each property of the appearance is decided by the last one
that sets it, whatever the others do with this property or with the rest (`Styles.Decides`).

So the rules of one list, and those of another behind them, make the appearance of the first with
all that the second sets put over it, and a rule that does not match may as well be absent
(`Styles.last_rule_decides`).
-/

namespace Tabular

/-- A formula is **true** on a row when its value there is neither zero nor not-a-number. -/
def Formula.IsTrueOn (formula : Formula) (look : Lookup) : Prop :=
  ∃ v : Float, formula.value look = .ok v ∧ (v == 0) = false ∧ v.isNaN = false

/-- A rule matches when its formula is true. -/
theorem Styles.holds_iff {formula : Formula} {look : Lookup} :
    Styles.holds formula look = true ↔ formula.IsTrueOn look := by
  rw [Styles.holds, Formula.IsTrueOn]
  cases formula.value look with
  | ok v => simp [isTrueNumber, bne]
  | error fault => simp

instance (formula : Formula) (look : Lookup) : Decidable (formula.IsTrueOn look) :=
  decidable_of_iff (Styles.holds formula look = true) Styles.holds_iff

/-! ## Properties -/

namespace Appearance

/-- A **property** of appearances is unset in the plain one, and of two appearances the second
decides it if it sets it. -/
structure IsProperty {α : Type} (property : Appearance → Option α) : Prop where
  plain : property {} = none
  override : ∀ a b : Appearance, property (a.override b) = (property b).or (property a)

theorem isProperty_color : IsProperty color := ⟨rfl, fun _ _ => Option.orElse_eq_or⟩

theorem isProperty_stroke : IsProperty stroke := ⟨rfl, fun _ _ => Option.orElse_eq_or⟩

theorem isProperty_size : IsProperty size := ⟨rfl, fun _ _ => Option.orElse_eq_or⟩

theorem isProperty_label : IsProperty label := ⟨rfl, fun _ _ => Option.orElse_eq_or⟩

theorem override_eq (a b : Appearance) :
    a.override b = ⟨b.color.or a.color, b.stroke.or a.stroke, b.size.or a.size,
      b.label.or a.label⟩ := by
  simp only [override, Option.orElse_eq_orElse, Option.orElse_eq_or]

theorem override_plain (a : Appearance) : a.override {} = a := rfl

theorem plain_override (a : Appearance) : override {} a = a := by
  simp only [override, Option.orElse_eq_orElse, Option.orElse_eq_or, Option.or_none]

theorem override_assoc (a b c : Appearance) :
    (a.override b).override c = a.override (b.override c) := by
  simp only [override, Option.orElse_eq_orElse, Option.orElse_eq_or, Option.or_assoc]

/-- What some rules put over an appearance, they can put over the plain one first. -/
theorem foldl_override (rules : List StyleRule) (a : Appearance) :
    rules.foldl (fun a rule => a.override rule.appearance) a =
      a.override (rules.foldl (fun a rule => a.override rule.appearance) {}) := by
  induction rules generalizing a with
  | nil => exact (override_plain a).symm
  | cons rule rules ih =>
      calc rules.foldl (fun a rule => a.override rule.appearance) (a.override rule.appearance)
          = (a.override rule.appearance).override
              (rules.foldl (fun a rule => a.override rule.appearance) {}) := ih _
        _ = a.override (rule.appearance.override
              (rules.foldl (fun a rule => a.override rule.appearance) {})) :=
            override_assoc _ _ _
        _ = a.override ((rule :: rules).foldl (fun a rule => a.override rule.appearance) {}) := by
            rw [List.foldl_cons, plain_override, ih rule.appearance]

end Appearance

namespace Styles

open Appearance

variable {look : Lookup} {α : Type} {property : Appearance → Option α}

/-- Some styles **decide** the value of a property on a row: it is what the last of the matching
rules that set the property sets it to, and unset when no matching rule sets it. -/
def Decides (styles : Styles) (look : Lookup) (property : Appearance → Option α) :
    Option α → Prop
  | some v => ∃ before rule formula after, styles = before ++ (rule, formula) :: after ∧
      formula.IsTrueOn look ∧ property rule.appearance = some v ∧
      ∀ later ∈ after, later.2.IsTrueOn look → property later.1.appearance = none
  | none => ∀ entry ∈ styles, entry.2.IsTrueOn look → property entry.1.appearance = none

/-- A last rule that matches and sets the property decides it. -/
theorem Decides.set (styles : Styles) {rule : StyleRule} {formula : Formula} {v : α}
    (hmatches : formula.IsTrueOn look) (hset : property rule.appearance = some v) :
    Decides (styles ++ [(rule, formula)]) look property (some v) :=
  ⟨styles, rule, formula, [], rfl, hmatches, hset, List.forall_mem_nil _⟩

/-- A last rule that does not match, or leaves the property unset, decides nothing. -/
theorem Decides.leave {styles : Styles} {rule : StyleRule} {formula : Formula}
    {value : Option α} (h : Decides styles look property value)
    (hunset : formula.IsTrueOn look → property rule.appearance = none) :
    Decides (styles ++ [(rule, formula)]) look property value := by
  cases value with
  | none =>
      intro entry hentry hmatches
      rcases List.mem_append.mp hentry with hentry | hentry
      · exact h entry hentry hmatches
      · obtain rfl := List.mem_singleton.mp hentry
        exact hunset hmatches
  | some v =>
      obtain ⟨before, decider, decision, after, rfl, hdecision, hset, hafter⟩ := h
      refine ⟨before, decider, decision, after ++ [(rule, formula)], ?_, hdecision, hset, ?_⟩
      · rw [List.append_assoc, List.cons_append]
      · intro later hlater hmatches
        rcases List.mem_append.mp hlater with hlater | hlater
        · exact hafter later hlater hmatches
        · obtain rfl := List.mem_singleton.mp hlater
          exact hunset hmatches

/-! ## Matching and resolving -/

/-- The rules that match are those with a true formula. -/
theorem matchingRules_eq (styles : Styles) (look : Lookup) :
    matchingRules styles look =
      (styles.filter fun entry => entry.2.IsTrueOn look).map Prod.fst := by
  rw [matchingRules]
  congr 1
  refine List.filter_congr fun entry _ => ?_
  rw [Bool.eq_iff_iff, holds_iff, decide_eq_true_iff]

theorem matchingRules_append (xs ys : Styles) (look : Lookup) :
    matchingRules (xs ++ ys) look = matchingRules xs look ++ matchingRules ys look := by
  rw [matchingRules, List.filter_append, List.map_append]
  rfl

theorem matchingRules_singleton_of_true {rule : StyleRule} {formula : Formula}
    (h : formula.IsTrueOn look) : matchingRules [(rule, formula)] look = [rule] := by
  simp [matchingRules, holds_iff.mpr h]

theorem matchingRules_singleton_of_not_true {entry : StyleRule × Formula}
    (h : ¬ entry.2.IsTrueOn look) : matchingRules [entry] look = [] := by
  have hholds : holds entry.2 look = false := Bool.eq_false_iff.mpr (mt holds_iff.mp h)
  simp [matchingRules, hholds]

/-- A rule that does not match may as well be absent. -/
theorem matchingRules_skip {before after : Styles} {entry : StyleRule × Formula}
    (h : ¬ entry.2.IsTrueOn look) :
    matchingRules (before ++ entry :: after) look = matchingRules (before ++ after) look := by
  rw [← List.singleton_append, matchingRules_append, matchingRules_append,
    matchingRules_singleton_of_not_true h, List.nil_append, matchingRules_append]

/-- **Each property is decided by the last matching rule that sets it.** -/
theorem decides_resolve (hproperty : IsProperty property) (styles : Styles) (look : Lookup) :
    Decides styles look property (property (styles.resolve look)) := by
  -- the induction adds a rule at the end, which is the one that overrides all others
  induction styles using List.reverseRecOn with
  | nil =>
      rw [show property (resolve [] look) = none from hproperty.plain]
      exact List.forall_mem_nil _
  | append_singleton styles entry ih =>
      obtain ⟨rule, formula⟩ := entry
      by_cases hmatches : formula.IsTrueOn look
      · have hresolve : property (resolve (styles ++ [(rule, formula)]) look) =
            (property rule.appearance).or (property (resolve styles look)) := by
          rw [resolve, matchingRules_append, matchingRules_singleton_of_true hmatches,
            List.foldl_append]
          exact hproperty.override _ _
        rw [hresolve]
        cases hset : property rule.appearance with
        | some v => exact Decides.set styles hmatches hset
        | none => exact ih.leave fun _ => hset
      · have hresolve : resolve (styles ++ [(rule, formula)]) look = resolve styles look := by
          rw [resolve, matchingRules_skip hmatches, List.append_nil]
          rfl
        rw [hresolve]
        exact ih.leave fun h => absurd h hmatches

/-- The rules of two lists make the appearance of the first with that of the second put over it. -/
theorem resolve_append (xs ys : Styles) (look : Lookup) :
    resolve (xs ++ ys) look = (xs.resolve look).override (ys.resolve look) := by
  rw [resolve, matchingRules_append, List.foldl_append]
  exact foldl_override (matchingRules ys look) (xs.resolve look)

/-! ## Compiling -/

/-- What some rules **compile to**: each to itself with its compiled formula. -/
def CompileTo (rules : List StyleRule) (styles : Styles) : Prop :=
  List.Forall₂ (fun rule entry => entry.1 = rule ∧
    Formula.compile rule.formula .extended = .ok entry.2) rules styles

/-- A rule with a fault is the **first** one when all rules before it have formulas that compile. -/
def FirstFault (rules : List StyleRule) (fault : StyleFault) : Prop :=
  ∃ before rule after, rules = before ++ rule :: after ∧
    (∀ earlier ∈ before, ∃ f, Formula.compile earlier.formula .extended = .ok f) ∧
    fault.rule = rule.id ∧ Formula.compile rule.formula .extended = .error fault.source

/-- Rules compile one by one, up to the first one at fault. -/
theorem compileTo_or_firstFault (rules : List StyleRule) :
    match compile rules with
    | .ok styles => CompileTo rules styles
    | .error fault => FirstFault rules fault := by
  induction rules with
  | nil => exact .nil
  | cons rule rules ih =>
      rw [compile]
      cases hformula : Formula.compile rule.formula .extended with
      | error fault => exact ⟨[], rule, rules, rfl, List.forall_mem_nil _, rfl, hformula⟩
      | ok formula =>
          cases hrules : compile rules with
          | ok styles =>
              rw [hrules] at ih
              exact .cons ⟨rfl, hformula⟩ ih
          | error fault =>
              rw [hrules] at ih
              obtain ⟨before, faulty, after, rfl, hbefore, hfault⟩ := ih
              refine ⟨rule :: before, faulty, after, rfl, ?_, hfault⟩
              intro earlier hearlier
              rcases List.mem_cons.mp hearlier with rfl | hearlier
              · exact ⟨formula, hformula⟩
              · exact hbefore earlier hearlier

/-- The first rule at fault is the one that is reported. -/
theorem compile_of_firstFault {rules : List StyleRule} {fault : StyleFault}
    (h : FirstFault rules fault) : compile rules = .error fault := by
  obtain ⟨id, source⟩ := fault
  obtain ⟨before, rule, after, rfl, hbefore, hid, hsource⟩ := h
  cases hid
  induction before with
  | nil =>
      rw [List.nil_append, compile, hsource]
  | cons first before ih =>
      obtain ⟨formula, hformula⟩ := hbefore first List.mem_cons_self
      rw [List.cons_append, compile, hformula,
        ih fun earlier hearlier => hbefore earlier (List.mem_cons_of_mem _ hearlier)]

/-- Rules that have compiled have formulas that compile. -/
theorem CompileTo.exists_formula {rules : List StyleRule} {styles : Styles}
    (h : CompileTo rules styles) {rule : StyleRule} (hrule : rule ∈ rules) :
    ∃ f, Formula.compile rule.formula .extended = .ok f := by
  induction h with
  | nil => cases hrule
  | cons hentry _ ih =>
      rcases List.mem_cons.mp hrule with rfl | hrule
      · exact ⟨_, hentry.2⟩
      · exact ih hrule

/-- A compiled rule has a value on every row. -/
theorem CompileTo.exists_value {rules : List StyleRule} {styles : Styles}
    (h : CompileTo rules styles) {entry : StyleRule × Formula} (hentry : entry ∈ styles)
    (look : Lookup) : ∃ v : Float, entry.2.value look = .ok v := by
  induction h with
  | nil => cases hentry
  | cons hfirst _ ih =>
      rcases List.mem_cons.mp hentry with rfl | hentry
      · exact Formula.exists_value_of_compile hfirst.2 look
      · exact ih hentry

theorem compileTo_of_compile {rules : List StyleRule} {styles : Styles}
    (h : compile rules = .ok styles) : CompileTo rules styles := by
  have hspec := compileTo_or_firstFault rules
  rwa [h] at hspec

theorem firstFault_of_compile {rules : List StyleRule} {fault : StyleFault}
    (h : compile rules = .error fault) : FirstFault rules fault := by
  have hspec := compileTo_or_firstFault rules
  rwa [h] at hspec

/-- Rules compile exactly when all their formulas do. -/
theorem exists_compile_iff (rules : List StyleRule) :
    (∃ styles : Styles, compile rules = .ok styles) ↔
      ∀ rule ∈ rules, ∃ f, Formula.compile rule.formula .extended = .ok f := by
  constructor
  · rintro ⟨styles, hstyles⟩ rule hrule
    exact (compileTo_of_compile hstyles).exists_formula hrule
  · intro hall
    cases hcompile : compile rules with
    | ok styles => exact ⟨styles, rfl⟩
    | error fault =>
        obtain ⟨before, rule, after, rfl, -, -, hfault⟩ := firstFault_of_compile hcompile
        obtain ⟨f, hf⟩ := hall rule (List.mem_append_right before List.mem_cons_self)
        rw [hf] at hfault
        cases hfault

/-- **The last rule decides.** On any row, the names of the matching rules are listed in the order of
the rules, and each property of the appearance is what the last matching rule that sets it sets it
to, or unset if none does. So the appearance for two lists of rules, one behind the other, is that
for the second put over that for the first, property by property; and a rule that does not match can
be taken out. Rules compile when all their formulas do, each rule to itself with its formula, which
then has a value on every row; otherwise the first rule whose formula does not compile is named, with
the fault of this formula. -/
theorem last_rule_decides :
    (∀ (styles : Styles) (look : Lookup),
      styles.matchingIds look =
          (styles.filter fun entry => entry.2.IsTrueOn look).map (fun entry => entry.1.id) ∧
        styles.Decides look color (styles.resolve look).color ∧
        styles.Decides look stroke (styles.resolve look).stroke ∧
        styles.Decides look size (styles.resolve look).size ∧
        styles.Decides look label (styles.resolve look).label) ∧
    (∀ (xs ys : Styles) (look : Lookup),
      resolve (xs ++ ys) look =
        { color := (ys.resolve look).color.or (xs.resolve look).color
          stroke := (ys.resolve look).stroke.or (xs.resolve look).stroke
          size := (ys.resolve look).size.or (xs.resolve look).size
          label := (ys.resolve look).label.or (xs.resolve look).label }) ∧
    (∀ (before after : Styles) (entry : StyleRule × Formula) (look : Lookup),
      ¬ entry.2.IsTrueOn look →
        matchingIds (before ++ entry :: after) look = matchingIds (before ++ after) look ∧
          resolve (before ++ entry :: after) look = resolve (before ++ after) look) ∧
    ∀ rules : List StyleRule,
      ((∃ styles : Styles, compile rules = .ok styles) ↔
        ∀ rule ∈ rules, ∃ f, Formula.compile rule.formula .extended = .ok f) ∧
      (∀ styles : Styles, compile rules = .ok styles → CompileTo rules styles ∧
        ∀ entry ∈ styles, ∀ look : Lookup, ∃ v : Float, entry.2.value look = .ok v) ∧
      ∀ fault : StyleFault, compile rules = .error fault ↔ FirstFault rules fault := by
  refine ⟨fun styles look => ⟨?_, decides_resolve isProperty_color styles look,
    decides_resolve isProperty_stroke styles look, decides_resolve isProperty_size styles look,
    decides_resolve isProperty_label styles look⟩, ?_, ?_, fun rules =>
      ⟨exists_compile_iff rules, ?_, fun fault => ⟨firstFault_of_compile, compile_of_firstFault⟩⟩⟩
  · rw [matchingIds, matchingRules_eq, List.map_map]
    rfl
  · intro xs ys look
    rw [resolve_append, override_eq]
  · intro before after entry look h
    rw [matchingIds, matchingIds, resolve, resolve, matchingRules_skip h]
    exact ⟨rfl, rfl⟩
  · intro styles hstyles
    have hrules := compileTo_of_compile hstyles
    exact ⟨hrules, fun entry hentry look => hrules.exists_value hentry look⟩

/-- Rules for large sales and for very large ones, and between them one that asks for a column that
is missing. -/
def salesSample : Styles :=
  [(⟨"big", "Sales >= 100", { color := some "red", size := some 8 }⟩,
      ⟨[.column "Sales", .number 100, .operator .ge], "Sales >= 100", .extended⟩),
    (⟨"broken", "Missing * 2", { color := some "never" }⟩,
      ⟨[.column "Missing", .number 2, .operator .mul], "Missing * 2", .extended⟩),
    (⟨"huge", "Sales > 150", { color := some "purple" }⟩,
      ⟨[.column "Sales", .number 150, .operator .gt], "Sales > 150", .extended⟩)]

theorem last_rule_decides_salesSample :
    (∃ first broken last, salesSample = [first, broken, last] ∧
      ∃ look : Lookup, ¬ broken.2.IsTrueOn look ∧ matchingIds [first, last] look = ["big", "huge"] ∧
        matchingIds salesSample look = ["big", "huge"] ∧
        resolve salesSample look = resolve [first, last] look) ∧
    ∃ styles : Styles, compile (salesSample.map Prod.fst) = .ok styles ∧
      CompileTo (salesSample.map Prod.fst) styles := by
  constructor
  · refine ⟨_, _, _, rfl, (Row.ofPairs [("Sales", .number 200)]).get?, ?_⟩
    have hbroken : ¬ Formula.IsTrueOn ⟨[.column "Missing", .number 2, .operator .mul],
        "Missing * 2", .extended⟩ (Row.ofPairs [("Sales", .number 200)]).get? := by
      decide +kernel
    have hids : matchingIds [salesSample[0], salesSample[2]]
        (Row.ofPairs [("Sales", .number 200)]).get? = ["big", "huge"] := by
      decide +kernel
    obtain ⟨hskip, hresolve⟩ := last_rule_decides.2.2.1 [_] [_] (_, _) _ hbroken
    exact ⟨hbroken, hids, hskip.trans hids, hresolve⟩
  · have hall : (compile (salesSample.map Prod.fst)).toOption.isSome = true := by decide +kernel
    cases hcompile : compile (salesSample.map Prod.fst) with
    | error fault =>
        rw [hcompile] at hall
        cases hall
    | ok styles => exact ⟨styles, rfl, ((last_rule_decides.2.2.2 _).2.1 styles hcompile).1⟩

end Styles

end Tabular
