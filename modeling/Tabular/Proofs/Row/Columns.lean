import Tabular.Proofs.Alike.Reading
import Tabular.Proofs.Program.Headers

set_option autoImplicit false

/-! # The columns that are read

A formula lists the columns of its steps, each once and in the order of first use, and a condition
names columns. Nothing else of a row matters: two lookups that agree on these columns give the same
value, whatever they are lookups of (`evaluate_reads`). So a row that is built from pairs and a
dictionary that holds the last cell of each column give the same answers.
-/

namespace Tabular

/-! ## The columns of a formula -/

namespace Formula

/-- The column that a step reads. -/
def Step.column? : Step → Option String
  | column name => some name
  | _ => none

/-- The columns of the steps, one for each use. -/
def uses (steps : List Step) : List String := steps.filterMap Step.column?

theorem mem_uses {steps : List Step} {name : String} :
    name ∈ uses steps ↔ .column name ∈ steps := by
  rw [uses, List.mem_filterMap]
  constructor
  · rintro ⟨step, hstep, hname⟩
    cases step with
    | column other =>
        cases hname
        exact hstep
    | _ => cases hname
  · exact fun h => ⟨.column name, h, rfl⟩

/-- The listed columns are the used ones, added like headers. -/
theorem columnsOf_eq (steps : List Step) :
    columnsOf steps = (uses steps).foldl Table.addHeader [] := rfl

end Formula

/-- What is added to headers is among them. -/
theorem mem_addHeader {headers : List String} {column name : String} :
    name ∈ Table.addHeader headers column ↔ name ∈ headers ∨ name = column := by
  rw [Table.addHeader]
  split
  · next hmem =>
      constructor
      · exact .inl
      · rintro (h | rfl)
        · exact h
        · exact hmem
  · rw [List.mem_append, List.mem_singleton]

theorem mem_addHeaders {headers columns : List String} {name : String} :
    name ∈ columns.foldl Table.addHeader headers ↔ name ∈ headers ∨ name ∈ columns := by
  induction columns generalizing headers with
  | nil => simp
  | cons column columns ih => rw [List.foldl_cons, ih, mem_addHeader, List.mem_cons, or_assoc]

theorem mem_addHeaders_nil {columns : List String} {name : String} :
    name ∈ columns.foldl Table.addHeader [] ↔ name ∈ columns := by
  rw [mem_addHeaders, or_iff_right (List.not_mem_nil)]

/-- Names that are added one by one, each unless it is there, stand in the order in which they come
first. -/
theorem pairwise_addHeaders (names : List String) :
    (names.foldl Table.addHeader []).Pairwise fun a b => names.idxOf a < names.idxOf b := by
  -- the induction adds a name at the end, which leaves all first places as they are
  induction names using List.reverseRecOn with
  | nil => exact List.Pairwise.nil
  | append_singleton names last ih =>
      have hfirst : ∀ name ∈ names, (names ++ [last]).idxOf name = names.idxOf name :=
        fun name hname => List.idxOf_append_of_mem hname
      have hkept : (names.foldl Table.addHeader []).Pairwise fun a b =>
          (names ++ [last]).idxOf a < (names ++ [last]).idxOf b := by
        refine ih.imp_of_mem fun {a b} ha hb hlt => ?_
        rwa [hfirst a (mem_addHeaders_nil.mp ha), hfirst b (mem_addHeaders_nil.mp hb)]
      rw [List.foldl_append, List.foldl_cons, List.foldl_nil, Table.addHeader]
      split
      · exact hkept
      · next hnew =>
          have hnew : last ∉ names := fun h => hnew (mem_addHeaders_nil.mpr h)
          rw [List.pairwise_append]
          refine ⟨hkept, List.pairwise_singleton _ _, ?_⟩
          intro name hname other hother
          obtain rfl := List.mem_singleton.mp hother
          have hname : name ∈ names := mem_addHeaders_nil.mp hname
          have hlt := List.idxOf_lt_length_of_mem hname
          rw [hfirst name hname, List.idxOf_append_of_notMem hnew]
          omega

/-! ## Dictionaries -/

/-- A lookup **holds the last cells** of some pairs when it has the columns of the pairs, each with
the cell of the last pair of that column. -/
def Lookup.HoldsLast (look : Lookup) (pairs : List (String × Cell)) : Prop :=
  ∀ column : String,
    match look column with
    | none => column ∉ pairs.map Prod.fst
    | some cell => ∃ before after : List (String × Cell),
        pairs = before ++ (column, cell) :: after ∧ column ∉ after.map Prod.fst

/-- Pairs have no cell of a column that is none of theirs. -/
theorem lookup_eq_none_of_not_mem {α : Type} {pairs : List (String × α)} {column : String}
    (h : column ∉ pairs.map Prod.fst) : pairs.lookup column = none := by
  rw [List.lookup_eq_none_iff]
  intro pair hpair
  rw [bne_iff_ne]
  rintro rfl
  exact h (List.mem_map_of_mem hpair)

theorem Row.get?_of_not_mem_columns {row : Row} {column : String} (h : column ∉ row.columns) :
    row.get? column = none :=
  lookup_eq_none_of_not_mem h

/-- Only one lookup holds the last cells of some pairs. -/
theorem Lookup.HoldsLast.eq_ofPairs {look : Lookup} {pairs : List (String × Cell)}
    (h : look.HoldsLast pairs) : look = Lookup.ofPairs pairs := by
  funext column
  have hcolumn := h column
  rw [Lookup.ofPairs]
  cases hlook : look column with
  | none =>
      rw [hlook] at hcolumn
      refine (lookup_eq_none_of_not_mem ?_).symm
      rwa [List.map_reverse, List.mem_reverse]
  | some cell =>
      rw [hlook] at hcolumn
      obtain ⟨before, after, rfl, hafter⟩ := hcolumn
      have hnone : after.reverse.lookup column = none := by
        refine lookup_eq_none_of_not_mem ?_
        rwa [List.map_reverse, List.mem_reverse]
      rw [List.reverse_append, List.reverse_cons, List.append_assoc, List.lookup_append, hnone,
        Option.none_or, List.singleton_append, lookup_cons_eq_ite, if_pos rfl]

/-! ## What is read -/

/-- **Only the named columns are read.** A formula lists exactly the columns of its steps, each
once, in the order of first use, and two rows that agree on them give the same value, or the same
fault. A filter does not tell rows apart that agree on the columns of its condition. So a row that
is built from pairs and a dictionary with the last cell of each column are read alike. -/
theorem evaluate_reads :
    (∀ f : Formula,
      f.columns.Nodup ∧ (∀ name, name ∈ f.columns ↔ .column name ∈ f.steps) ∧
      (f.columns.Pairwise fun a b =>
        (Formula.uses f.steps).idxOf a < (Formula.uses f.steps).idxOf b) ∧
      ∀ look look' : Lookup,
        (∀ name ∈ f.columns, look name = look' name) → f.value look = f.value look') ∧
    (∀ (f : Filter) (look look' : Lookup),
      (∀ name ∈ f.condition.columns, look name = look' name) → f.accepts look = f.accepts look') ∧
    ∀ (pairs : List (String × Cell)) (dictionary : Lookup), dictionary.HoldsLast pairs →
      (∀ f : Filter, f.accepts (Row.ofPairs pairs).get? = f.accepts dictionary) ∧
      ∀ f : Formula, f.value (Row.ofPairs pairs).get? = f.value dictionary := by
  refine ⟨fun f => ?_, fun f look look' h => ?_, fun pairs dictionary h => ?_⟩
  · have hmem : ∀ name, name ∈ f.columns ↔ .column name ∈ f.steps := by
      intro name
      rw [Formula.columns, Formula.columnsOf_eq, mem_addHeaders_nil, Formula.mem_uses]
    refine ⟨Table.nodup_addHeaders List.nodup_nil _, hmem, pairwise_addHeaders _, ?_⟩
    intro look look' h
    refine Formula.evaluate_congr fun name hname => ?_
    rw [h name ((hmem name).mpr hname)]
  · rw [Filter.accepts, Filter.accepts,
      f.condition.value_congr fun name hname => by rw [h name hname]]
  · rw [Row.get?_ofPairs, h.eq_ofPairs]
    exact ⟨fun _ => rfl, fun _ => rfl⟩

/-- The price of an order, which names one of its two columns twice. -/
def orderSample : Formula :=
  ⟨[.column "Unit Price", .column "Qty", .operator .mul, .column "Unit Price", .operator .add],
    "\x7bUnit Price\x7d * Qty + \x7bUnit Price\x7d", .extended⟩

/-- Whether an order has one piece only, or an unknown number. -/
def singleSample : Filter :=
  ⟨.or (.compare .eq (.column "Qty") (.number 1)) (.like false false (.column "Qty") (.text "")),
    "Qty = 1 OR Qty LIKE ''", []⟩

/-- Pairs with two cells of one column. -/
def orderPairs : List (String × Cell) :=
  [("Qty", .number 1), ("Unit Price", .text "2.5"), ("Qty", .number 3)]

/-- Their last cells, in another order. -/
def orderDictionary : Lookup := fun column =>
  if column = "Unit Price" then some (.text "2.5")
  else if column = "Qty" then some (.number 3)
  else none

theorem evaluate_reads_orderSample :
    (orderSample.value orderDictionary =
      orderSample.value (Row.ofPairs (("Region", .text "west") :: orderPairs)).get?) ∧
    (singleSample.accepts orderDictionary =
      singleSample.accepts (Row.ofPairs [("Qty", .number 3)]).get?) ∧
    orderDictionary.HoldsLast orderPairs ∧
    singleSample.accepts (Row.ofPairs orderPairs).get? = singleSample.accepts orderDictionary := by
  have hlast : orderDictionary.HoldsLast orderPairs := by
    intro column
    by_cases hprice : column = "Unit Price"
    · subst hprice
      exact ⟨[("Qty", .number 1)], [("Qty", .number 3)], rfl, by decide⟩
    · by_cases hqty : column = "Qty"
      · subst hqty
        exact ⟨[("Qty", .number 1), ("Unit Price", .text "2.5")], [], rfl, by decide⟩
      · simp [orderDictionary, orderPairs, hprice, hqty]
  refine ⟨?_, ?_, hlast, ?_⟩
  · refine (evaluate_reads.1 orderSample).2.2.2 _ _ fun name hname => ?_
    have hname : name ∈ ["Unit Price", "Qty"] := hname
    rcases List.mem_pair.mp hname with rfl | rfl <;> rfl
  · refine evaluate_reads.2.1 singleSample _ _ fun name hname => ?_
    have hname : name ∈ ["Qty", "Qty"] := hname
    rcases List.mem_pair.mp hname with rfl | rfl <;> rfl
  · exact (evaluate_reads.2.2 orderPairs orderDictionary hlast).1 singleSample

end Tabular
