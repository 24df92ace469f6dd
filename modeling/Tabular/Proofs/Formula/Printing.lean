import Tabular.Proofs.Formula.Compile
import Tabular.Proofs.Formula.Scanning

set_option autoImplicit false

/-! # Printing postfix sequences

A postfix sequence that reduces to one value can be written as a formula again: a stack of texts
takes the place of the stack of numbers, and every operator puts its operands in parentheses
(`infixText?`). Compiling that formula gives back the very same sequence, and every compiled formula
has such a sequence (`compile_infixText`).

The texts on the stack carry the proof. Each of them **renders** the steps it was made of: it scans
as lexemes that are a phrase, and the postfix order of the phrase is these steps (`Renders`).
-/

namespace Tabular.Formula

/-! ## The printer -/

namespace Step

/-- The text that a step makes of the texts of its operands, in the order they were pushed. -/
def infixText : Step → List String → String
  | number v, _ => showNumber v
  | column name, _ => "\x7b" ++ name ++ "\x7d"
  | operator o, [a, b] => "(" ++ a ++ ") " ++ o.symbol ++ " (" ++ b ++ ")"
  | operator _, _ => ""
  | function f, arguments => f.name ++ "(" ++ ", ".intercalate arguments ++ ")"

/-- The effect of a step on a stack of texts, whose top is the head of the list. There is none when
the step finds too few. -/
def write? (step : Step) (stack : List String) : Option (List String) :=
  if stack.length < step.pops then none
  else some (step.infixText (stack.take step.pops).reverse :: stack.drop step.pops)

end Step

/-- The **infix text** of a postfix sequence that reduces to one value. -/
def infixText? (steps : List Step) : Option String :=
  match steps.foldlM (fun stack step => step.write? stack) [] with
  | some [text] => some text
  | _ => none

/-- A step **can be written** when its number is finite and has no minus sign, and the name of its
column fits in braces. -/
def Step.IsWritable : Step → Prop
  | number v => v.isFinite = true ∧ hasMinus v = false
  | column name => FitsInBraces name
  | operator _ | function _ => True

instance : DecidablePred Step.IsWritable
  | .number v => inferInstanceAs (Decidable (v.isFinite = true ∧ hasMinus v = false))
  | .column name => inferInstanceAs (Decidable (FitsInBraces name))
  | .operator _ | .function _ => inferInstanceAs (Decidable True)

/-- A step **reads back** when it is no number, or the text of its number reads as the number. -/
def Step.ReadsBack : Step → Prop
  | number v => readDecimal? (showNumber v).toList = some v
  | _ => True

instance : DecidablePred Step.ReadsBack
  | .number v => inferInstanceAs (Decidable (readDecimal? (showNumber v).toList = some v))
  | .column _ | .operator _ | .function _ => inferInstanceAs (Decidable True)

/-! ## Texts and phrases -/

/-- Nothing follows, or a closing parenthesis or a comma does. -/
def Closes (rest : List Char) : Prop := ∀ c ∈ rest.head?, c = ')' ∨ c = ','

/-- A text **scans** as lexemes when it does so in front of all that closes. -/
def Scans (s : String) (ls : List Lexeme) : Prop :=
  ∀ (rest : List Char) (ms : List Lexeme), Closes rest → Lexes rest ms →
    Lexes (s.toList ++ rest) (ls ++ ms)

theorem closes_closing (rest : List Char) : Closes (')' :: rest) := by
  intro c hc
  cases hc
  exact .inl rfl

theorem closes_comma (rest : List Char) : Closes (',' :: rest) := by
  intro c hc
  cases hc
  exact .inr rfl

/-- Lexemes **say** some steps at a level when tokens that say them are a phrase of this level whose
postfix order is these steps. -/
def Says (l : Nat) (ls : List Lexeme) (steps : List Step) : Prop :=
  ∀ tokens : List Token, tokens.map Token.lexeme = ls →
    ∃ a : Tree, Derives .extended l tokens a ∧ a.steps = steps

/-- Lexemes say the steps of some arguments when they are phrases with commas between them. -/
def SaysAll (count : Nat) (ls : List Lexeme) (steps : List Step) : Prop :=
  ∀ tokens : List Token, tokens.map Token.lexeme = ls → ∃ arguments : List Tree,
    DerivesAll .extended tokens arguments ∧ arguments.length = count ∧
      Tree.stepsAll arguments = steps

section

variable {l : Nat} {ls ks : List Lexeme} {steps others : List Step}

theorem Says.loosen {k : Nat} (h : Says l ls steps) (hk : k ≤ l) : Says k ls steps := by
  induction hk with
  | refl => exact h
  | step _ ih =>
      refine ih fun tokens hls => ?_
      obtain ⟨a, ha, hsteps⟩ := h tokens hls
      exact ⟨a, .tighter ha, hsteps⟩

theorem says_number (v : Float) : Says 7 [.number v] [.number v] := by
  intro tokens hls
  obtain ⟨t, left, rfl, ht, hleft⟩ := List.map_eq_cons_iff.mp hls
  obtain rfl := List.map_eq_nil_iff.mp hleft
  exact ⟨.number v, .number ht, rfl⟩

theorem says_column (name : String) : Says 7 [.column name] [.column name] := by
  intro tokens hls
  obtain ⟨t, left, rfl, ht, hleft⟩ := List.map_eq_cons_iff.mp hls
  obtain rfl := List.map_eq_nil_iff.mp hleft
  exact ⟨.column name, .column ht, rfl⟩

/-- Parentheses make an atom of a phrase and leave no trace. -/
theorem Says.parens (h : Says 0 ls steps) : Says 7 (.opening :: (ls ++ [.closing])) steps := by
  intro tokens hls
  obtain ⟨o, left, rfl, ho, hleft⟩ := List.map_eq_cons_iff.mp hls
  obtain ⟨us, vs, rfl, hus, hvs⟩ := List.map_eq_append_iff.mp hleft
  obtain ⟨t, left, rfl, ht, hleft⟩ := List.map_eq_cons_iff.mp hvs
  obtain rfl := List.map_eq_nil_iff.mp hleft
  obtain ⟨a, ha, hsteps⟩ := h us hus
  exact ⟨.parens a, .parens ho ha ht, hsteps⟩

/-- Two atoms with an operator between them are a phrase of the level of the operator. -/
theorem Says.binary (o : Operator) (h : Says 7 ls steps) (hk : Says 7 ks others) :
    Says 0 (ls ++ .operator o :: ks) (steps ++ others ++ [.operator o]) := by
  have hlevel : Says o.strength (ls ++ .operator o :: ks) (steps ++ others ++ [.operator o]) := by
    intro tokens hls
    obtain ⟨us, left, rfl, hus, hleft⟩ := List.map_eq_append_iff.mp hls
    obtain ⟨t, vs, rfl, ht, hvs⟩ := List.map_eq_cons_iff.mp hleft
    by_cases hpow : o = .pow
    · subst hpow
      obtain ⟨a, ha, rfl⟩ := h us hus
      obtain ⟨b, hb, rfl⟩ := hk.loosen (k := 5) (by decide) vs hvs
      exact ⟨.binary .pow a b, .power ha ht hb, rfl⟩
    · have hstrength := Operator.strength_le_four hpow
      obtain ⟨a, ha, rfl⟩ := h.loosen (k := o.strength) (by omega) us hus
      obtain ⟨b, hb, rfl⟩ := hk.loosen (k := o.strength + 1) (by omega) vs hvs
      exact ⟨.binary o a b, .binary hpow rfl rfl ha ht hb, rfl⟩
  exact hlevel.loosen (Nat.zero_le _)

theorem Says.last (h : Says 0 ls steps) : SaysAll 1 ls steps := by
  intro tokens hls
  obtain ⟨a, ha, rfl⟩ := h tokens hls
  exact ⟨[a], .last ha, rfl, by rw [Tree.stepsAll, Tree.stepsAll, List.append_nil]⟩

theorem SaysAll.more {count : Nat} (h : Says 0 ls steps) (hall : SaysAll count ks others) :
    SaysAll (count + 1) (ls ++ .comma :: ks) (steps ++ others) := by
  intro tokens hls
  obtain ⟨us, left, rfl, hus, hleft⟩ := List.map_eq_append_iff.mp hls
  obtain ⟨t, vs, rfl, ht, hvs⟩ := List.map_eq_cons_iff.mp hleft
  obtain ⟨a, ha, rfl⟩ := h us hus
  obtain ⟨arguments, harguments, rfl, rfl⟩ := hall vs hvs
  exact ⟨a :: arguments, .more ha ht harguments, rfl, by rw [Tree.stepsAll]⟩

/-- A function with its arguments in parentheses is an atom. -/
theorem SaysAll.call {f : Function} (h : SaysAll f.arity ls steps) :
    Says 7 (.function f :: .opening :: (ls ++ [.closing])) (steps ++ [.function f]) := by
  intro tokens hls
  obtain ⟨w, left, rfl, hw, hleft⟩ := List.map_eq_cons_iff.mp hls
  obtain ⟨o, left, rfl, ho, hleft⟩ := List.map_eq_cons_iff.mp hleft
  obtain ⟨us, vs, rfl, hus, hvs⟩ := List.map_eq_append_iff.mp hleft
  obtain ⟨t, left, rfl, ht, hleft⟩ := List.map_eq_cons_iff.mp hvs
  obtain rfl := List.map_eq_nil_iff.mp hleft
  obtain ⟨arguments, harguments, hlength, rfl⟩ := h us hus
  exact ⟨.call f arguments, .call hw ho harguments hlength ht, by rw [Tree.steps]⟩

end

/-! ## Texts that render steps -/

/-- A text **renders** some steps when it scans as lexemes that say them. -/
def Renders (s : String) (steps : List Step) : Prop :=
  ∃ ls : List Lexeme, Scans s ls ∧ Says 0 ls steps

/-- Some texts render the steps of as many arguments when they do so with commas between them. -/
def RendersAll (texts : List String) (steps : List Step) : Prop :=
  ∃ ls : List Lexeme, Scans (", ".intercalate texts) ls ∧ SaysAll texts.length ls steps

section

variable {s t : String} {steps others : List Step}

/-- The text of a number that reads back renders the number. -/
theorem renders_number {v : Float} (hfinite : v.isFinite = true) (hsign : hasMinus v = false)
    (hshow : readDecimal? (showNumber v).toList = some v) :
    Renders (showNumber v) [.number v] := by
  refine ⟨[.number v], ?_, (says_number v).loosen (Nat.zero_le _)⟩
  intro rest ms hrest h
  -- a text without sign is read as a numeral, from its first character on
  have hplain := isPlain_showNumber hfinite hsign
  rw [readDecimal?_of_plain hplain] at hshow
  refine h.numeral Lexeme.readsNumerals hplain hshow hfinite ?_ fun _ => rfl
  intro c hc
  rcases hrest c hc with rfl | rfl <;> decide

theorem renders_column {name : String} (hname : FitsInBraces name) :
    Renders ("\x7b" ++ name ++ "\x7d") [.column name] := by
  refine ⟨[.column name], ?_, (says_column name).loosen (Nat.zero_le _)⟩
  intro rest ms _ h
  simp only [String.toList_append, List.append_assoc]
  exact h.column hname

/-- A text in parentheses scans in front of anything. -/
theorem Scans.parens {ls ms : List Lexeme} {rest : List Char} (hs : Scans s ls)
    (h : Lexes rest ms) : Lexes ('(' :: (s.toList ++ ')' :: rest))
      (.opening :: (ls ++ [.closing]) ++ ms) := by
  rw [List.cons_append, List.append_assoc]
  exact (hs _ _ (closes_closing rest) h.closing).opening

/-- An operator between two texts in parentheses comes after the steps of both. -/
theorem Renders.binary (o : Operator) (hs : Renders s steps) (ht : Renders t others) :
    Renders ("(" ++ s ++ ") " ++ o.symbol ++ " (" ++ t ++ ")")
      (steps ++ others ++ [.operator o]) := by
  obtain ⟨ls, hscan, hsays⟩ := hs
  obtain ⟨ks, hscan', hsays'⟩ := ht
  refine ⟨_, ?_, hsays.parens.binary o hsays'.parens⟩
  intro rest ms _ h
  have htext : ("(" ++ s ++ ") " ++ o.symbol ++ " (" ++ t ++ ")").toList ++ rest =
      '(' :: (s.toList ++ ')' :: ' ' :: (o.symbol.toList ++ ' ' :: '(' ::
        (t.toList ++ ')' :: rest))) := by
    simp only [String.toList_append, List.append_assoc]
    rfl
  have hright := (hscan'.parens h).blank (c := ' ') rfl
  rw [htext, List.append_assoc]
  exact hscan.parens ((Lexes.operator o hright).blank rfl)

theorem Renders.last (h : Renders s steps) : RendersAll [s] steps := by
  obtain ⟨ls, hscan, hsays⟩ := h
  exact ⟨ls, by rwa [String.intercalate_singleton], hsays.last⟩

theorem RendersAll.more {texts : List String} (hs : Renders s steps)
    (hall : RendersAll (t :: texts) others) : RendersAll (s :: t :: texts) (steps ++ others) := by
  obtain ⟨ls, hscan, hsays⟩ := hs
  obtain ⟨ks, hscan', hsays'⟩ := hall
  refine ⟨ls ++ .comma :: ks, ?_, hsays'.more hsays⟩
  intro rest ms hrest h
  rw [String.intercalate_cons_cons]
  simp only [String.toList_append, List.append_assoc, List.cons_append]
  exact hscan _ _ (closes_comma _) (Lexes.comma ((hscan' rest ms hrest h).blank rfl))

/-- A function comes after the steps of its arguments. -/
theorem RendersAll.call {f : Function} {texts : List String} (h : RendersAll texts steps)
    (harity : texts.length = f.arity) :
    Renders (f.name ++ "(" ++ ", ".intercalate texts ++ ")") (steps ++ [.function f]) := by
  obtain ⟨ls, hscan, hsays⟩ := h
  rw [harity] at hsays
  refine ⟨_, ?_, hsays.call.loosen (Nat.zero_le _)⟩
  intro rest ms _ h
  simp only [String.toList_append, List.append_assoc]
  exact Lexes.function f (hscan.parens h)

end

/-! ## Stacks of texts -/

/-- A stack of texts **holds** some steps when its texts, from the bottom to the top, render them
one part after the other. -/
inductive Holds : List String → List Step → Prop
  | empty : Holds [] []
  | push {stack : List String} {s : String} {below own : List Step} :
      Holds stack below → Renders s own → Holds (s :: stack) (below ++ own)

theorem Holds.pop {stack : List String} {done : List Step} (h : Holds stack done)
    (hne : 0 < stack.length) : ∃ (s : String) (rest : List String) (below own : List Step),
      stack = s :: rest ∧ done = below ++ own ∧ Holds rest below ∧ Renders s own := by
  cases h with
  | empty => exact absurd hne (Nat.lt_irrefl 0)
  | push hbelow hown => exact ⟨_, _, _, _, rfl, rfl, hbelow, hown⟩

/-- The right operand of an operator is on top of the left one. -/
theorem Holds.popTwo {stack : List String} {done : List Step} (h : Holds stack done)
    (hne : 1 < stack.length) : ∃ (a b : String) (rest : List String) (below as bs : List Step),
      stack = b :: a :: rest ∧ done = below ++ as ++ bs ∧ Holds rest below ∧ Renders a as ∧
        Renders b bs := by
  obtain ⟨b, rest, below, bs, rfl, rfl, h, hb⟩ := h.pop (Nat.lt_of_succ_lt hne)
  obtain ⟨a, rest, below, as, rfl, rfl, h, ha⟩ := h.pop (Nat.lt_of_succ_lt_succ hne)
  exact ⟨a, b, rest, below, as, bs, rfl, rfl, h, ha, hb⟩

/-- **One step on a stack of texts.** A step that finds enough texts leaves a stack that holds the
step after all that was held before. -/
theorem Holds.write {step : Step} {stack : List String} {done : List Step} (h : Holds stack done)
    (hwritable : step.IsWritable) (hshow : step.ReadsBack) (henough : step.pops ≤ stack.length) :
    ∃ next : List String, step.write? stack = some next ∧ Holds next (done ++ [step]) ∧
      next.length = stack.length - step.pops + 1 := by
  refine ⟨_, if_neg (Nat.not_lt.mpr henough), ?_, by simp⟩
  cases step with
  | number v => exact h.push (renders_number hwritable.1 hwritable.2 hshow)
  | column name => exact h.push (renders_column hwritable)
  | operator o =>
      obtain ⟨a, b, rest, below, as, bs, rfl, rfl, h, ha, hb⟩ := h.popTwo henough
      have hpush := h.push (Renders.binary o ha hb)
      rw [← List.append_assoc, ← List.append_assoc] at hpush
      exact hpush
  | function f =>
      have harity : f.arity = 1 ∨ f.arity = 2 := by
        cases f <;> decide
      simp only [Step.pops, Step.infixText] at henough ⊢
      rcases harity with harity | harity
      · rw [harity] at henough ⊢
        obtain ⟨a, rest, below, as, rfl, rfl, h, ha⟩ := h.pop henough
        have hpush := h.push (ha.last.call harity.symm)
        rw [← List.append_assoc] at hpush
        exact hpush
      · rw [harity] at henough ⊢
        obtain ⟨a, b, rest, below, as, bs, rfl, rfl, h, ha, hb⟩ := h.popTwo henough
        have hpush := h.push ((hb.last.more ha).call harity.symm)
        rw [← List.append_assoc, ← List.append_assoc] at hpush
        exact hpush

/-- **A run on a stack of texts** holds all steps in the end, and its depth is that of a run on
numbers. -/
theorem Holds.run {steps : List Step} {stack : List String} {done : List Step} {depth : Nat}
    (h : Holds stack done) (hwritable : ∀ step ∈ steps, step.IsWritable)
    (hshow : ∀ step ∈ steps, step.ReadsBack)
    (hdepth : steps.foldlM (fun depth step =>
      if depth < step.pops then none else some (depth - step.pops + 1)) stack.length = some depth) :
    ∃ last : List String, steps.foldlM (fun stack step => step.write? stack) stack = some last ∧
      Holds last (done ++ steps) ∧ last.length = depth := by
  induction steps generalizing stack done with
  | nil =>
      cases hdepth
      exact ⟨stack, rfl, by rwa [List.append_nil], rfl⟩
  | cons step steps ih =>
      rw [List.foldlM_cons] at hdepth
      have henough : ¬ stack.length < step.pops := by
        intro hfew
        rw [if_pos hfew] at hdepth
        cases hdepth
      rw [if_neg henough] at hdepth
      obtain ⟨next, hnext, hholds, hlength⟩ := h.write (hwritable step List.mem_cons_self)
        (hshow step List.mem_cons_self) (Nat.not_lt.mp henough)
      obtain ⟨last, hlast, hheld, hdepth⟩ := ih hholds
        (fun s hs => hwritable s (List.mem_cons_of_mem _ hs))
        (fun s hs => hshow s (List.mem_cons_of_mem _ hs)) (by rw [hlength]; exact hdepth)
      refine ⟨last, ?_, ?_, hdepth⟩
      · rw [List.foldlM_cons, hnext]
        exact hlast
      · rwa [List.append_assoc, List.singleton_append] at hheld

/-- The infix text of a balanced sequence renders it. -/
theorem exists_renders {steps : List Step} (hbalanced : isBalanced steps = true)
    (hwritable : ∀ step ∈ steps, step.IsWritable) (hshow : ∀ step ∈ steps, step.ReadsBack) :
    ∃ text : String, infixText? steps = some text ∧ Renders text steps := by
  have hdepth : depth? steps = some 1 := by simpa [isBalanced] using hbalanced
  obtain ⟨last, hlast, hholds, hlength⟩ := Holds.empty.run hwritable hshow hdepth
  rw [List.nil_append] at hholds
  -- a single text is left, and it renders everything
  cases hholds with
  | empty => cases hlength
  | push hbelow hown =>
      cases hbelow with
      | push => cases hlength
      | empty => exact ⟨_, by rw [infixText?, hlast], hown⟩

/-! ## Compiling the infix text -/

/-- No phrase is without tokens. -/
theorem Derives.ne_nil {d : Dialect} :
    ∀ {l : Nat} {ts : List Token} {a : Tree}, Derives d l ts a → ts ≠ []
  | _, _, _, .number _ | _, _, _, .column _ | _, _, _, .parens .. | _, _, _, .call .. => by simp
  | _, _, _, .power .. | _, _, _, .plus .. | _, _, _, .minus .. | _, _, _, .binary .. => by simp
  | _, _, _, .tighter h => h.ne_nil

/-- A blank text has no tokens. -/
theorem Token.scan_of_blank {cs : List Char} (h : cs.all isBlank = true) (offset : Nat) :
    Token.scan offset cs = .ok [] := by
  induction cs generalizing offset with
  | nil => exact scanWith_nil offset
  | cons c cs ih =>
      rw [List.all_cons, Bool.and_eq_true] at h
      rw [Token.scan, scanWith_blank h.1]
      exact ih h.2 _

/-- A text that renders some steps compiles to them. -/
theorem Renders.compile {text : String} {steps : List Step} (h : Renders text steps) :
    ∃ f : Formula, Formula.compile text .extended = .ok f ∧ f.steps = steps := by
  obtain ⟨ls, hscans, hsays⟩ := h
  obtain ⟨tokens, hscan, hlexemes⟩ := hscans [] [] (fun _ hc => nomatch hc) ScansAs.nil 0
  rw [List.append_nil] at hscan hlexemes
  replace hscan : Token.scan 0 text.toList = .ok tokens := hscan
  obtain ⟨a, ha, rfl⟩ := hsays tokens hlexemes
  have hblank : ¬ text.toList.all isBlank = true := by
    intro hblank
    rw [Token.scan_of_blank hblank] at hscan
    cases hscan
    exact ha.ne_nil rfl
  refine ⟨⟨a.steps, text, .extended⟩, ?_, rfl⟩
  rw [Formula.compile, Token.ofText, if_neg hblank, hscan]
  simp only [bind, Except.bind, stepsOfTokens_of_derives ha]
  rfl

/-! ## What compiled formulas look like -/

theorem isWritable_singleton {s : Step} (h : s.IsWritable) : ∀ step ∈ [s], step.IsWritable := by
  intro step hstep
  rw [List.mem_singleton.mp hstep]
  exact h

theorem isWritable_append {as bs : List Step} (ha : ∀ step ∈ as, step.IsWritable)
    (hb : ∀ step ∈ bs, step.IsWritable) : ∀ step ∈ as ++ bs, step.IsWritable := by
  intro step hstep
  rcases List.mem_append.mp hstep with hstep | hstep
  · exact ha step hstep
  · exact hb step hstep

/-- The zero that a minus sign writes can be written. -/
theorem isWritable_zero : (Step.number 0).IsWritable := by
  decide

mutual

/-- The steps of a phrase of sound lexemes can be written. -/
theorem isWritable_of_derives {d : Dialect} :
    ∀ {l : Nat} {ts : List Token} {a : Tree}, Derives d l ts a →
      (∀ t ∈ ts, t.lexeme.IsSound) → ∀ step ∈ a.steps, step.IsWritable
  | _, _, _, .number h, hts => by
      have hsound := hts _ List.mem_cons_self
      rw [h] at hsound
      exact isWritable_singleton (s := .number _) hsound
  | _, _, _, .column h, hts => by
      have hsound := hts _ List.mem_cons_self
      rw [h] at hsound
      exact isWritable_singleton (s := .column _) hsound
  | _, _, _, .parens _ h _, hts => by
      have hinner := isWritable_of_derives h fun t ht => hts t (by simp [ht])
      exact hinner
  | _, _, _, .call _ _ h _ _, hts => by
      have hall := isWritable_of_derivesAll h fun t ht => hts t (by simp [ht])
      exact isWritable_append hall (isWritable_singleton trivial)
  | _, _, _, .power ha _ hb, hts => by
      have hleft := isWritable_of_derives ha fun t ht => hts t (by simp [ht])
      have hright := isWritable_of_derives hb fun t ht => hts t (by simp [ht])
      exact isWritable_append (isWritable_append hleft hright) (isWritable_singleton trivial)
  | _, _, _, .plus _ h, hts => by
      have hinner := isWritable_of_derives h fun t ht => hts t (by simp [ht])
      exact hinner
  | _, _, _, .minus _ h, hts => by
      have hleft := isWritable_singleton isWritable_zero
      have hright := isWritable_of_derives h fun t ht => hts t (by simp [ht])
      exact isWritable_append (isWritable_append hleft hright) (isWritable_singleton trivial)
  | _, _, _, .binary _ _ _ ha _ hb, hts => by
      have hleft := isWritable_of_derives ha fun t ht => hts t (by simp [ht])
      have hright := isWritable_of_derives hb fun t ht => hts t (by simp [ht])
      exact isWritable_append (isWritable_append hleft hright) (isWritable_singleton trivial)
  | _, _, _, .tighter h, hts => isWritable_of_derives h hts

/-- The steps of all arguments can be written. -/
theorem isWritable_of_derivesAll {d : Dialect} :
    ∀ {ts : List Token} {arguments : List Tree}, DerivesAll d ts arguments →
      (∀ t ∈ ts, t.lexeme.IsSound) → ∀ step ∈ Tree.stepsAll arguments, step.IsWritable
  | _, _, .last h, hts => by
      simpa [Tree.stepsAll] using isWritable_of_derives h hts
  | _, _, .more h _ hrest, hts => by
      have hfirst := isWritable_of_derives h fun t ht => hts t (by simp [ht])
      have hothers := isWritable_of_derivesAll hrest fun t ht => hts t (by simp [ht])
      exact isWritable_append hfirst hothers

end

/-- **Recompiling the infix text of a postfix sequence gives the sequence back**, for every sequence
that reduces to one value, whose numbers are finite, have no minus sign and read back from their
texts, and whose columns have names that fit in braces. Apart from the reading back, which is a
property of the text of numbers, every compiled formula has such a sequence. -/
theorem compile_infixText :
    (∀ steps : List Step, isBalanced steps = true → (∀ step ∈ steps, step.IsWritable) →
      (∀ step ∈ steps, step.ReadsBack) → ∃ (text : String) (f : Formula),
        infixText? steps = some text ∧ compile text .extended = .ok f ∧ f.steps = steps) ∧
    ∀ (text : String) (d : Dialect) (f : Formula), compile text d = .ok f →
      isBalanced f.steps = true ∧ ∀ step ∈ f.steps, step.IsWritable := by
  constructor
  · intro steps hbalanced hwritable hshow
    obtain ⟨text, htext, hrenders⟩ := exists_renders hbalanced hwritable hshow
    obtain ⟨f, hcompile, hsteps⟩ := hrenders.compile
    exact ⟨text, f, htext, hcompile, hsteps⟩
  · intro text d f hcompile
    obtain ⟨tokens, a, htokens, ha, hsteps⟩ := exists_derives_of_compile hcompile
    rw [hsteps]
    refine ⟨isBalanced_steps ha, isWritable_of_derives ha ?_⟩
    unfold Token.ofText at htokens
    split at htokens
    · cases htokens
    · exact isSound_of_scan htokens

/-- The greater of a negated square and a half. -/
def squareSample : List Step :=
  [.number 0, .column "Unit Price", .number 2, .operator .pow, .operator .sub, .number 0.5,
    .function .max]

theorem compile_infixText_squareSample : ∃ (text : String) (f : Formula),
    infixText? squareSample = some text ∧ compile text .extended = .ok f ∧
      f.steps = squareSample :=
  compile_infixText.1 squareSample (by decide) (by decide +kernel) (by decide +kernel)

example : infixText? squareSample =
    some "max((0) - ((\x7bUnit Price\x7d) ^ (2)), 0.5)" := by
  decide +kernel

end Tabular.Formula
