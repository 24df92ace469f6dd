import Tabular.Proofs.Condition.Tiling
import Tabular.Proofs.Decimal.Packing

set_option autoImplicit false

/-! # The numbers of conditions

No text writes a negative number, an infinite one or none at all: a numeral is finite and has no
minus sign (`IsNumeral`), and the words that stand for numbers are one and zero. So all numbers of a
condition that has been read are such numbers (`isNumeral_of_ofText`). Comparing two of them as
doubles decides whether they are the same, and so does comparing two such conditions node by node
(`beq_iff_eq_of_numbers`).
-/

namespace Tabular

/-- A double is what a **numeral** writes when it is finite and has no minus sign. -/
def IsNumeral (v : Float) : Prop := v.isFinite = true ∧ hasMinus v = false

instance : DecidablePred IsNumeral := fun v =>
  inferInstanceAs (Decidable (v.isFinite = true ∧ hasMinus v = false))

/-- Comparing what numerals write decides whether it is the same. -/
theorem IsNumeral.beq_iff_eq {v w : Float} (hv : IsNumeral v) (hw : IsNumeral w) :
    (v == w) = true ↔ v = w := by
  constructor
  · exact eq_of_beq_of_hasMinus hv.2 hw.2
  · rintro rfl
    exact beq_self_of_isFinite hv.1

namespace Condition

/-! ## Comparing conditions -/

/-- A condition **has numerals** for its numbers. -/
def HasNumerals (c : Condition) : Prop := ∀ v ∈ c.numbers, IsNumeral v

/-- **Comparing conditions decides whether they are the same**, if their numbers are what numerals
write. -/
theorem beq_iff_eq_of_numbers {c e : Condition} (hc : c.HasNumerals) (he : e.HasNumerals) :
    (c == e) = true ↔ c = e := by
  induction c generalizing e with
  | or p q ihp ihq =>
      cases e with
      | or r s =>
          obtain ⟨hp, hq⟩ := List.forall_mem_append.mp hc
          obtain ⟨hr, hs⟩ := List.forall_mem_append.mp he
          show (p == r && q == s) = true ↔ _
          rw [Bool.and_eq_true, ihp hp hr, ihq hq hs, or.injEq]
      | _ => exact iff_of_false nofun nofun
  | and p q ihp ihq =>
      cases e with
      | and r s =>
          obtain ⟨hp, hq⟩ := List.forall_mem_append.mp hc
          obtain ⟨hr, hs⟩ := List.forall_mem_append.mp he
          show (p == r && q == s) = true ↔ _
          rw [Bool.and_eq_true, ihp hp hr, ihq hq hs, and.injEq]
      | _ => exact iff_of_false nofun nofun
  | not p ih =>
      cases e with
      | not r =>
          show (p == r) = true ↔ _
          rw [ih (e := r) hc he, not.injEq]
      | _ => exact iff_of_false nofun nofun
  | compare a p q ihp ihq =>
      cases e with
      | compare b r s =>
          obtain ⟨hp, hq⟩ := List.forall_mem_append.mp hc
          obtain ⟨hr, hs⟩ := List.forall_mem_append.mp he
          show (a == b && (p == r && q == s)) = true ↔ _
          rw [Bool.and_eq_true, Bool.and_eq_true, beq_iff_eq, ihp hp hr, ihq hq hs, compare.injEq]
      | _ => exact iff_of_false nofun nofun
  | between negated p q s ihp ihq ihs =>
      cases e with
      | between negated' p' q' s' =>
          obtain ⟨hp, hqs⟩ := List.forall_mem_append.mp hc
          obtain ⟨hq, hs⟩ := List.forall_mem_append.mp hqs
          obtain ⟨hp', hqs'⟩ := List.forall_mem_append.mp he
          obtain ⟨hq', hs'⟩ := List.forall_mem_append.mp hqs'
          show (negated == negated' && (p == p' && (q == q' && s == s'))) = true ↔ _
          rw [Bool.and_eq_true, Bool.and_eq_true, Bool.and_eq_true, beq_iff_eq, ihp hp hp',
            ihq hq hq', ihs hs hs', between.injEq]
      | _ => exact iff_of_false nofun nofun
  | like ignoreCase negated p q ihp ihq =>
      cases e with
      | like ignoreCase' negated' r s =>
          obtain ⟨hp, hq⟩ := List.forall_mem_append.mp hc
          obtain ⟨hr, hs⟩ := List.forall_mem_append.mp he
          show (ignoreCase == ignoreCase' && (negated == negated' && (p == r && q == s))) = true ↔ _
          rw [Bool.and_eq_true, Bool.and_eq_true, Bool.and_eq_true, beq_iff_eq, beq_iff_eq,
            ihp hp hr, ihq hq hs, like.injEq]
      | _ => exact iff_of_false nofun nofun
  | matching ignoreCase p q ihp ihq =>
      cases e with
      | matching ignoreCase' r s =>
          obtain ⟨hp, hq⟩ := List.forall_mem_append.mp hc
          obtain ⟨hr, hs⟩ := List.forall_mem_append.mp he
          show (ignoreCase == ignoreCase' && (p == r && q == s)) = true ↔ _
          rw [Bool.and_eq_true, Bool.and_eq_true, beq_iff_eq, ihp hp hr, ihq hq hs,
            matching.injEq]
      | _ => exact iff_of_false nofun nofun
  | column name =>
      cases e with
      | column name' =>
          show (name == name') = true ↔ _
          rw [beq_iff_eq, column.injEq]
      | _ => exact iff_of_false nofun nofun
  | number v =>
      cases e with
      | number w =>
          show (v == w) = true ↔ _
          rw [(hc v List.mem_cons_self).beq_iff_eq (he w List.mem_cons_self), number.injEq]
      | _ => exact iff_of_false nofun nofun
  | text s =>
      cases e with
      | text t =>
          show (s == t) = true ↔ _
          rw [beq_iff_eq, text.injEq]
      | _ => exact iff_of_false nofun nofun

/-! ## Numbers that are read -/

theorem hasNumerals_join (k : Connective) {p q : Condition} (hp : p.HasNumerals)
    (hq : q.HasNumerals) : (k.join p q).HasNumerals := by
  cases k <;> exact List.forall_mem_append.mpr ⟨hp, hq⟩

/-- The words for numbers stand for one and zero. -/
theorem hasNumerals_wordCondition (w : String) : (wordCondition w).HasNumerals := by
  unfold wordCondition
  split
  · exact List.forall_mem_singleton.mpr (by decide +kernel)
  · exact List.forall_mem_singleton.mpr (by decide +kernel)
  · exact fun _ hv => nomatch hv
  · exact fun _ hv => nomatch hv

/-- Tokens **have numerals** for their numbers. -/
def Numerals (ts : List Token) : Prop := ∀ t ∈ ts, ∀ v : Float, t.lexeme = .number v → IsNumeral v

theorem numerals_append {ts us : List Token} (h : Numerals (ts ++ us)) : Numerals ts ∧ Numerals us :=
  List.forall_mem_append.mp h

mutual

/-- A phrase of tokens with numerals writes a condition with numerals. -/
theorem hasNumerals_of_derives : ∀ {cat : Category} {ts : List Token} {a : Tree},
    Derives cat ts a → Numerals ts → a.ast.HasNumerals
  | _, _, _, .number ht, h => List.forall_mem_singleton.mpr (h _ List.mem_cons_self _ ht)
  | _, _, _, .quoted _, _ => fun _ hv => nomatch hv
  | _, _, _, .word _, _ => hasNumerals_wordCondition _
  | _, _, _, .name _ _ _ _, _ => fun _ hv => nomatch hv
  | _, _, _, .parens _ ha _, h => by
      have hinner := hasNumerals_of_derives ha (numerals_append (List.forall_mem_cons.mp h).2).1
      exact hinner
  | _, _, _, .plain ha, h => hasNumerals_of_derives ha h
  | _, _, _, .ask (q := q) ha _ hb, h => by
      obtain ⟨hus, hrest⟩ := numerals_append h
      have hp := hasNumerals_of_derives ha hus
      have hq := hasNumerals_of_derives hb (numerals_append hrest).2
      cases q <;> exact List.forall_mem_append.mpr ⟨hp, hq⟩
  | _, _, _, .between ha _ hlow _ hhigh, h => by
      obtain ⟨hus, hrest⟩ := numerals_append h
      obtain ⟨hvs, hrest⟩ := numerals_append (numerals_append hrest).2
      have hbounds := List.forall_mem_append.mpr ⟨hasNumerals_of_derives hlow hvs,
        hasNumerals_of_derives hhigh (List.forall_mem_cons.mp hrest).2⟩
      exact List.forall_mem_append.mpr ⟨hasNumerals_of_derives ha hus, hbounds⟩
  | _, _, _, .not _ ha, h => by
      have hinner := hasNumerals_of_derives ha (List.forall_mem_cons.mp h).2
      exact hinner
  | _, _, _, .asserted ha _, h => hasNumerals_of_derives ha h
  | _, _, _, .chain (c := c) hchain, h => by
      obtain ⟨hfirst, hothers⟩ := hasNumerals_of_derivesChain hchain h
      exact balance_induction (fun _ _ => hasNumerals_join c) _ _ hfirst hothers

/-- The operands of a chain of tokens with numerals write conditions with numerals. -/
theorem hasNumerals_of_derivesChain : ∀ {c : Connective} {ts : List Token} {a : Tree}
    {as : List Tree}, DerivesChain c ts a as → Numerals ts →
      a.ast.HasNumerals ∧ ∀ p ∈ Tree.astAll as, p.HasNumerals
  | _, _, _, _, .last ha, h => ⟨hasNumerals_of_derives ha h, fun _ hp => nomatch hp⟩
  | _, _, _, _, .more ha _ hbs, h => by
      obtain ⟨hts, hrest⟩ := numerals_append h
      obtain ⟨hb, hbs⟩ := hasNumerals_of_derivesChain hbs (List.forall_mem_cons.mp hrest).2
      exact ⟨hasNumerals_of_derives ha hts, List.forall_mem_cons.mpr ⟨hb, hbs⟩⟩

end

/-- A number that is read is a numeral. -/
theorem Lexeme.isNumeral_of_read {c : Char} {cs : List Char} {v : Float} {more : Nat}
    (h : Lexeme.read c cs = .ok (.number v, more)) : IsNumeral v := by
  unfold Lexeme.read at h
  split_ifs at h
  case pos | pos | pos | pos | pos => cases h
  case pos => split at h <;> cases h
  case pos =>
    -- a numeral
    split at h
    · next hscan =>
        cases h
        exact unsigned_of_scanNumeral hscan
    · cases h
  case pos => cases h
  case neg => split at h <;> cases h

/-- **The numbers of a condition that is read are numerals.** -/
theorem isNumeral_of_ofText {text : List Char} {c : Condition} (h : ofText text = .ok c) :
    c.HasNumerals := by
  obtain ⟨tokens, htokens, hread⟩ := bind_eq_ok h
  obtain ⟨a, ha, -, rfl⟩ := exists_derives_of_ofTokens hread
  refine hasNumerals_of_derives ha fun t ht v hv => ?_
  obtain ⟨c, more, -, -, hread⟩ := (tiles_of_scan htokens).readsBack t ht
  rw [hv] at hread
  exact Lexeme.isNumeral_of_read hread

end Condition

end Tabular
