import Tabular.Proofs.Formula.Printing
import Tabular.Proofs.Text.Scanner

set_option autoImplicit false

/-! # Formulas in parentheses

A text that is scanned alone is scanned in the same way in front of whatever divides it from what
comes after, as a closing parenthesis or a comma does (`lexes_append`), and whether tokens are a
phrase depends on their lexemes only (`Derives.congr`). So a text that compiles renders its steps
(`renders_of_compile`), and in parentheses it is an operand of whatever stands around it.
-/

namespace Tabular.Formula

/-! ## Phrases at other places -/

mutual

/-- **Whether tokens are a phrase depends on their lexemes only.** -/
theorem Derives.congr {d : Dialect} : ∀ {l : Nat} {ts us : List Token} {a : Tree},
    Derives d l ts a → us.map Token.lexeme = ts.map Token.lexeme → Derives d l us a
  | _, _, _, _, .number ht, h => by
      obtain ⟨u, rfl, hu⟩ := List.map_eq_singleton_iff.mp h
      exact .number (hu.trans ht)
  | _, _, _, _, .column ht, h => by
      obtain ⟨u, rfl, hu⟩ := List.map_eq_singleton_iff.mp h
      exact .column (hu.trans ht)
  | _, _, _, _, .parens ho ha hc, h => by
      obtain ⟨o, left, rfl, ho', hleft⟩ := List.map_eq_cons_iff.mp h
      rw [List.map_append] at hleft
      obtain ⟨ts', left, rfl, hts', hleft⟩ := List.map_eq_append_iff.mp hleft
      obtain ⟨c, rfl, hc'⟩ := List.map_eq_singleton_iff.mp hleft
      exact .parens (ho'.trans ho) (ha.congr hts') (hc'.trans hc)
  | _, _, _, _, .call hw ho hall harity hc, h => by
      obtain ⟨w, left, rfl, hw', hleft⟩ := List.map_eq_cons_iff.mp h
      obtain ⟨o, left, rfl, ho', hleft⟩ := List.map_eq_cons_iff.mp hleft
      rw [List.map_append] at hleft
      obtain ⟨ts', left, rfl, hts', hleft⟩ := List.map_eq_append_iff.mp hleft
      obtain ⟨c, rfl, hc'⟩ := List.map_eq_singleton_iff.mp hleft
      exact .call (hw'.trans hw) (ho'.trans ho) (hall.congr hts') harity (hc'.trans hc)
  | _, _, _, _, .power ha hsign hb, h => by
      rw [List.map_append] at h
      obtain ⟨as', left, rfl, has', hleft⟩ := List.map_eq_append_iff.mp h
      obtain ⟨s, bs', rfl, hs, hbs'⟩ := List.map_eq_cons_iff.mp hleft
      exact .power (ha.congr has') (hs.trans hsign) (hb.congr hbs')
  | _, _, _, _, .plus hsign ha, h => by
      obtain ⟨s, ts', rfl, hs, hts'⟩ := List.map_eq_cons_iff.mp h
      exact .plus (hs.trans hsign) (ha.congr hts')
  | _, _, _, _, .minus hsign ha, h => by
      obtain ⟨s, ts', rfl, hs, hts'⟩ := List.map_eq_cons_iff.mp h
      exact .minus (hs.trans hsign) (ha.congr hts')
  | _, _, _, _, .binary hpow hlevel hadmits ha hsign hb, h => by
      rw [List.map_append] at h
      obtain ⟨as', left, rfl, has', hleft⟩ := List.map_eq_append_iff.mp h
      obtain ⟨s, bs', rfl, hs, hbs'⟩ := List.map_eq_cons_iff.mp hleft
      exact .binary hpow hlevel hadmits (ha.congr has') (hs.trans hsign) (hb.congr hbs')
  | _, _, _, _, .tighter ha, h => .tighter (ha.congr h)

/-- The same of phrases with commas between them. -/
theorem DerivesAll.congr {d : Dialect} : ∀ {ts us : List Token} {arguments : List Tree},
    DerivesAll d ts arguments → us.map Token.lexeme = ts.map Token.lexeme →
      DerivesAll d us arguments
  | _, _, _, .last ha, h => .last (ha.congr h)
  | _, _, _, .more ha hcomma hall, h => by
      rw [List.map_append] at h
      obtain ⟨as', left, rfl, has', hleft⟩ := List.map_eq_append_iff.mp h
      obtain ⟨c, bs', rfl, hc, hbs'⟩ := List.map_eq_cons_iff.mp hleft
      exact .more (ha.congr has') (hc.trans hcomma) (hall.congr hbs')

end

/-! ## Texts in front of others -/

/-- The symbol of an operator that is read is at the front of the text. -/
theorem Operator.symbol_isPrefix_of_read? {cs : List Char} {o : Operator}
    (h : Operator.read? cs = some o) : o.symbol.toList <+: cs := by
  unfold Operator.read? at h
  split at h <;> cases h <;> exact ⟨_, rfl⟩

/-- What closes divides. -/
theorem Closes.divides {rest : List Char} (hrest : Closes rest) : Divides rest := by
  intro c hc
  rcases hrest c hc with rfl | rfl <;> exact ⟨by decide, by decide⟩

section

variable {rest : List Char} (hrest : Divides rest)
include hrest

/-- An operator is read in the same way in front of what divides. -/
theorem Operator.read?_append {c : Char} {cs : List Char} {o : Operator}
    (h : Operator.read? (c :: cs) = some o) : Operator.read? (c :: (cs ++ rest)) = some o := by
  have hequals : rest.head? ≠ some '=' := hrest.head?_ne (by decide)
  unfold Operator.read? at h
  split at h
  case h_12 hge heq =>
      obtain ⟨rfl, rfl⟩ := List.cons.inj heq
      rw [Operator.read?]
      · exact h
      · exact append_ne_cons_of_head hge hequals
  case h_13 hle heq =>
      obtain ⟨rfl, rfl⟩ := List.cons.inj heq
      rw [Operator.read?]
      · exact h
      · exact append_ne_cons_of_head hle hequals
  case h_14 => cases h
  all_goals
    rename_i heq
    obtain ⟨rfl, rfl⟩ := List.cons.inj heq
    exact h

/-- A lexeme is read in the same way in front of what divides. -/
theorem Lexeme.read_append (c : Char) (cs : List Char) :
    Stays cs.length (Lexeme.read c cs) (Lexeme.read c (cs ++ rest)) := by
  have single : ∀ lexeme : Lexeme,
      Stays cs.length (ε := Cause) (.ok (lexeme, 0)) (.ok (lexeme, 0)) :=
    fun lexeme => stays_ok lexeme (Nat.zero_le _)
  unfold Lexeme.read
  refine .ite ?name (.ite ?numeral (.ite ?word (.ite (single _) (.ite (single _)
    (.ite (single _) ?operator)))))
  case name =>
    intro lexeme more h
    dsimp only at h ⊢
    split at h
    · cases h
    · next hclosed =>
        -- the brace that closes the name is before the end of the text
        have hlength := (List.takeWhile_prefix (· != '\x7d') (l := cs)).length_le
        have hlonger : ¬ (cs.takeWhile (· != '\x7d')).length = (cs ++ rest).length := by
          rw [List.length_append]
          omega
        rw [List.takeWhile_append, if_neg hclosed, if_neg hlonger]
        split at h
        · cases h
        · cases h
          refine ⟨rfl, ?_⟩
          omega
  case numeral =>
    intro lexeme more h
    split at h
    · next v numeral hscan =>
        cases h
        obtain ⟨happend, hlength⟩ := scanNumeral_cons_append hscan hrest.endsNumeral
        rw [happend]
        exact ⟨rfl, hlength⟩
    · cases h
  case word =>
    have hlength := (List.takeWhile_prefix isWordPart (l := cs)).length_le
    rw [takeWhile_append_of_head hrest.endsWord]
    dsimp only
    split <;> exact stays_ok _ hlength
  case operator =>
    intro lexeme more h
    split at h
    · next o hread =>
        cases h
        rw [Operator.read?_append hrest hread]
        have hlength := (Operator.symbol_isPrefix_of_read? hread).length_le
        rw [String.length_toList, List.length_cons] at hlength
        exact ⟨rfl, Nat.sub_le_iff_le_add.mpr hlength⟩
    · split at h <;> cases h

end

/-! ### The scanner -/

/-- A token that stands some bytes further on. -/
def Token.moved (n : Nat) (t : Token) : Token := { t with offset := n + t.offset }

/-- A text that is moved has the same tokens, or the same fault, moved as far. -/
theorem Token.scan_add (n offset : Nat) (cs : List Char) : Token.scan (n + offset) cs =
    scannedBehind Token.moved [] n (Token.scan offset cs) :=
  scanWith_add (fun _ _ _ _ => rfl) n offset cs

section

variable {cs rest : List Char} {offset : Nat} {tokens : List Token}

/-- A text is scanned as it is alone in front of what divides, which is scanned from its end on. -/
theorem Token.scan_append (hrest : Divides rest) (h : Token.scan offset cs = .ok tokens) :
    Token.scan offset (cs ++ rest) =
      (Token.scan (offset + byteLength cs) rest).map (tokens ++ ·) :=
  scanWith_append (Lexeme.read_append hrest) h

/-- **A text lexes as it does alone** in front of what divides. -/
theorem lexes_append {ls : List Lexeme} (hrest : Divides rest)
    (h : Token.scan offset cs = .ok tokens) (hls : Lexes rest ls) :
    Lexes (cs ++ rest) (tokens.map Token.lexeme ++ ls) :=
  ScansAs.append Token.moved (fun _ _ _ _ => rfl) (fun _ _ => rfl) (Lexeme.read_append hrest) h hls

end

/-! ## Texts that compile -/

/-- **A text that compiles renders its steps.** -/
theorem renders_of_compile {text : String} {f : Formula} (h : compile text .extended = .ok f) :
    Renders text f.steps := by
  obtain ⟨tokens, a, htokens, ha, hsteps⟩ := exists_derives_of_compile h
  have hscan := Token.scan_of_ofText htokens
  refine ⟨tokens.map Token.lexeme, fun rest ms hrest hms => lexes_append hrest.divides hscan hms, ?_⟩
  exact fun us hus => ⟨a, ha.congr hus, hsteps.symm⟩

/-- A minus sign in front of a phrase of signs takes it from zero. -/
theorem Says.minus {ls : List Lexeme} {steps : List Step} (h : Says 5 ls steps) :
    Says 5 (.operator .sub :: ls) (.number 0 :: steps ++ [.operator .sub]) := by
  intro tokens hls
  obtain ⟨t, ts, rfl, ht, hts⟩ := List.map_eq_cons_iff.mp hls
  obtain ⟨a, ha, rfl⟩ := h ts hts
  exact ⟨.minus a, .minus ht ha, by rw [Tree.steps]⟩

/-- A minus sign in front of a text in parentheses takes it from zero. -/
theorem Renders.minus {s : String} {steps : List Step} (h : Renders s steps) :
    Renders ("-(" ++ s ++ ")") (.number 0 :: steps ++ [.operator .sub]) := by
  obtain ⟨ls, hscan, hsays⟩ := h
  have hparens : Says 5 (.opening :: (ls ++ [.closing])) steps := hsays.parens.loosen (by decide)
  refine ⟨_, ?_, hparens.minus.loosen (Nat.zero_le 5)⟩
  intro rest ms _ hms
  have htext : ("-(" ++ s ++ ")").toList ++ rest = '-' :: '(' :: (s.toList ++ ')' :: rest) := by
    simp only [String.toList_append, List.append_assoc]
    rfl
  rw [htext]
  exact (hscan.parens hms).cons [] rfl rfl

/-- Texts that compile render their steps as arguments, if there is one at least. -/
theorem rendersAll_of_compile {texts : List String} {formulas : List Formula}
    (h : List.Forall₂ (fun t f => compile t .extended = .ok f) texts formulas)
    (hne : texts ≠ []) : RendersAll texts (formulas.flatMap Formula.steps) := by
  induction h with
  | nil => exact absurd rfl hne
  | cons hfirst hrest ih =>
      cases hrest with
      | nil =>
          rw [List.flatMap_singleton]
          exact (renders_of_compile hfirst).last
      | cons => exact (ih (List.cons_ne_nil _ _)).more (renders_of_compile hfirst)

/-- No function is without arguments. -/
theorem Function.arity_pos (f : Function) : 0 < f.arity := by
  cases f <;> decide

end Tabular.Formula
