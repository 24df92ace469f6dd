import Tabular.Proofs.Formula.Yard
import Tabular.Proofs.Text.Scanner

set_option autoImplicit false

/-! # What a formula is blamed for

A yard blames the token that it is fed, or one that it has been fed earlier: it remembers where its
open groups start, and where a function name stands whose argument list has yet to come. So each of
its faults is at the place of a token or, if it is found at the end only, at the end of the text. In
the text, tokens start at places that no blank is at (`exists_read_of_mem_scan`).
-/

namespace Tabular.Formula

/-! ## Places of tokens -/

/-- The tokens of a text that is not at fault are scanned from its front. -/
theorem Token.scan_of_ofText {text : List Char} {tokens : List Token}
    (h : Token.ofText text = .ok tokens) : Token.scan 0 text = .ok tokens := by
  rw [Token.ofText] at h
  split at h
  · cases h
  · exact h

/-- **A token says what is read at its place**, which is as many bytes into the text as there are in
front of it. -/
theorem exists_read_of_mem_scan {cs : List Char} {offset : Nat} {tokens : List Token}
    (h : Token.scan offset cs = .ok tokens) : ∀ t ∈ tokens,
      ∃ (front : List Char) (c : Char) (rest : List Char) (more : Nat), cs = front ++ c :: rest ∧
        isBlank c = false ∧ Lexeme.read c rest = .ok (t.lexeme, more) ∧
        t.offset = offset + byteLength front := by
  intro t ht
  obtain ⟨front, c, rest, lexeme, more, hcs, hc, hread, rfl⟩ := exists_read_of_mem_scanWith h t ht
  exact ⟨front, c, rest, more, hcs, hc, hread, rfl⟩

/-- Tokens start at places in the text. -/
theorem placeIn_of_mem_scan {cs : List Char} {offset : Nat} {tokens : List Token}
    (h : Token.scan offset cs = .ok tokens) : ∀ t ∈ tokens, PlaceIn offset cs t.offset := by
  intro t ht
  obtain ⟨front, c, rest, more, rfl, hc, -, hplace⟩ := exists_read_of_mem_scan h t ht
  rw [hplace]
  exact (placeIn_cons (Bool.eq_false_iff.mp hc)).append

/-- The tokens of a text stand in it one after the other. -/
theorem pairwise_offset_of_scan {cs : List Char} {offset : Nat} {tokens : List Token}
    (h : Token.scan offset cs = .ok tokens) :
    tokens.Pairwise fun t u => t.offset < u.offset := by
  rw [Token.scan] at h
  fun_induction scanWith Lexeme.read (fun l _ o => Token.mk l o) offset cs generalizing tokens with
  | case1 =>
      cases h
      exact .nil
  | case2 _ _ _ _ ih => exact ih h
  | case3 => cases h
  | case4 => cases h
  | case5 offset c cs hc lexeme more hread lexed scanned hscan =>
      rename_i ih
      cases h
      refine .cons (fun u hu => ?_) (ih hscan)
      -- what follows the token stands behind its first character
      have hplace : offset + byteLength (c :: cs.take more) ≤ u.offset :=
        (placeIn_of_mem_scan hscan u hu).ge
      have hpos := Char.utf8Size_pos c
      rw [byteLength_cons] at hplace
      show offset < u.offset
      omega

/-! ## Faults of characters -/

theorem Lexeme.isLexical : IsLexical Lexeme.read := by
  intro c cs cause h
  unfold Lexeme.read at h
  dsimp only at h
  repeat' split at h
  all_goals cases h
  all_goals rfl

/-- A **place to blame** in the text of a formula: one of its places, or its start if the text is
blank. -/
def PlaceToBlame (text : List Char) (o : Nat) : Prop :=
  PlaceIn 0 text o ∨ o = 0 ∧ ∀ c ∈ text, isBlank c = true

theorem Token.isAt_of_ofText {text : List Char} {fault : Fault}
    (h : Token.ofText text = .error fault) : fault.IsAt (PlaceToBlame text) := by
  unfold Token.ofText at h
  split at h
  · next hblank =>
      cases h
      exact Fault.isAt_placed nofun (.inr ⟨rfl, List.all_eq_true.mp hblank⟩)
  · exact (isAt_of_scanWith Lexeme.isLexical h).mono fun o ho => .inl ho

/-! ## Faults of tokens -/

namespace Yard

/-- A yard **remembers** only places of some kind when its open groups start there, and so does the
function whose argument list has to come next. -/
structure Remembers (place : Nat → Prop) (y : Yard) : Prop where
  groups : ∀ (f : Option Function) (commas o : Nat), .group f commas o ∈ y.waiting → place o
  arguments : ∀ (f : Function) (o : Nat), y.expecting = .arguments f o → place o

/-- What waits after some operators are sent out has waited before. -/
theorem drain_suffix (p : Nat → Bool) (waiting : List Waiting) (output : List Step) :
    (drain p waiting output).1 <:+ waiting := by
  fun_induction drain p waiting output with
  | case1 => exact List.suffix_refl _
  | case2 output entry waiting o strength hop hp ih => exact ih.trans (List.suffix_cons ..)
  | case3 => exact List.suffix_refl _
  | case4 => exact List.suffix_refl _

section

variable {place : Nat → Prop} {y : Yard}

theorem remembers_start : start.Remembers place := ⟨fun _ _ _ h => (nomatch h), nofun⟩

/-- A yard that comes to expect something else than arguments remembers what it still waits with. -/
theorem Remembers.of_waiting {output : List Step} {waiting : List Waiting} {expecting : Expecting}
    (h : ∀ (f : Option Function) (commas o : Nat), .group f commas o ∈ waiting → place o)
    (hexpecting : ∀ (f : Function) (o : Nat), expecting ≠ .arguments f o) :
    Remembers place ⟨output, waiting, expecting⟩ :=
  ⟨h, fun f o heq => absurd heq (hexpecting f o)⟩

theorem Remembers.openGroup (h : y.Remembers place) {o : Nat} (ho : place o) (f : Option Function) :
    (y.openGroup f o).Remembers place := by
  refine .of_waiting (fun g commas k hk => ?_) nofun
  rcases List.mem_cons.mp hk with heq | hk
  · cases heq
    exact ho
  · exact h.groups g commas k hk

/-- What still waits after some operators are sent out is remembered. -/
theorem Remembers.drain (h : y.Remembers place) {p : Nat → Bool} {waiting : List Waiting}
    {output : List Step} (hdrain : drain p y.waiting y.output = (waiting, output)) :
    ∀ (f : Option Function) (commas o : Nat), .group f commas o ∈ waiting → place o := by
  intro f commas o ho
  have hsuffix := drain_suffix p y.waiting y.output
  rw [hdrain] at hsuffix
  exact h.groups f commas o (hsuffix.subset ho)

variable {o : Nat} (hy : y.Remembers place) (ho : place o)
include hy

theorem meets_pushOperator (d : Dialect) (p : Operator) :
    Meets (Remembers place) (fun cause => cause.phase ≠ .evaluation) (y.pushOperator d p) := by
  unfold pushOperator
  split
  · split
    · exact hy
    · refine .of_waiting (fun f commas k hk => ?_) nofun
      rcases List.mem_cons.mp hk with heq | hk
      · cases heq
      · exact hy.groups f commas k hk
    · exact nofun
  · split
    · refine .of_waiting (fun f commas k hk => ?_) nofun
      rcases List.mem_cons.mp hk with heq | hk
      · cases heq
      · exact hy.drain rfl f commas k hk
    · exact nofun

theorem meets_pushComma :
    Meets (Remembers place) (fun cause => cause.phase ≠ .evaluation) y.pushComma := by
  unfold pushComma
  split
  · exact nofun
  · split
    · next f commas k waiting output hdrain =>
        have hgroups := hy.drain hdrain
        refine .of_waiting (fun g commas' k' hk => ?_) nofun
        rcases List.mem_cons.mp hk with heq | hk
        · cases heq
          exact hgroups _ _ _ List.mem_cons_self
        · exact hgroups g commas' k' (List.mem_cons_of_mem _ hk)
    · exact nofun

include ho

theorem meets_closeGroup :
    Meets (Remembers place) (Fault.IsAt place) (y.closeGroup o) := by
  unfold closeGroup
  split
  · exact Fault.isAt_placed nofun ho
  · split
    · next commas k waiting output hdrain =>
        exact .of_waiting (fun f c n hn => hy.drain hdrain f c n (List.mem_cons_of_mem _ hn)) nofun
    · next f commas k waiting output hdrain =>
        split
        · exact .of_waiting (fun g c n hn => hy.drain hdrain g c n (List.mem_cons_of_mem _ hn)) nofun
        · exact Fault.isAt_placed nofun (hy.drain hdrain _ _ _ List.mem_cons_self)
    · exact Fault.isAt_placed nofun ho

end

section

variable {place : Nat → Prop} {y : Yard}

/-- **Feeding a token blames a token**: the one that is fed, or one that the yard remembers. -/
theorem meets_feed (d : Dialect) {t : Token} (hy : y.Remembers place) (ht : place t.offset) :
    Meets (Remembers place) (Fault.IsAt place) (feed d y t) := by
  unfold feed
  split
  · next f opened hexpecting =>
      split
      · exact hy.openGroup (hy.arguments f opened hexpecting) (some f)
      · exact Fault.isAt_placed nofun ht
  · have hoperand : ∀ next : Yard, next.Remembers place → Meets (Remembers place) (Fault.IsAt place)
        (if y.expecting == .operand then .ok next
          else .error (.placed (.missingOperator t.lexeme.describe) t.offset)) := by
      intro next hnext
      split
      · exact hnext
      · exact Fault.isAt_placed nofun ht
    dsimp only
    split
    · exact hoperand _ (.of_waiting hy.groups nofun)
    · exact hoperand _ (.of_waiting hy.groups nofun)
    · refine hoperand _ ⟨hy.groups, fun f o heq => ?_⟩
      cases heq
      exact ht
    · exact hoperand _ (hy.openGroup ht none)
    · exact meets_closeGroup hy ht
    · exact (meets_pushComma hy).mapError fun cause hcause => Fault.isAt_placed hcause ht
    · exact (meets_pushOperator hy d _).mapError fun cause hcause => Fault.isAt_placed hcause ht

/-- **A run blames one of its tokens.** -/
theorem meets_run (d : Dialect) {ts : List Token} (hy : y.Remembers place)
    (hts : ∀ t ∈ ts, place t.offset) :
    Meets (Remembers place) (Fault.IsAt place) (run d y ts) := by
  induction ts generalizing y with
  | nil => exact hy
  | cons t ts ih =>
      obtain ⟨ht, hts⟩ := List.forall_mem_cons.mp hts
      rw [run, List.foldlM_cons]
      exact (meets_feed d hy ht).bind fun z hz => ih hz hts

/-- The end of a formula is blamed itself, or else an open group is. -/
theorem isAt_of_finish {length : Nat} {fault : Fault} (hy : y.Remembers place) (hlength : place length)
    (h : y.finish length = .error fault) (hmalformed : fault ≠ ⟨.malformed, none⟩) :
    fault.IsAt place := by
  unfold finish at h
  split at h
  · cases h
    exact Fault.isAt_placed nofun hlength
  · cases h
    exact Fault.isAt_placed nofun hlength
  · split at h
    · next hdrain =>
        cases h
        exact Fault.isAt_placed nofun (hy.drain hdrain _ _ _ List.mem_cons_self)
    · split at h
      · cases h
      · cases h
        exact absurd rfl hmalformed

end

end Yard

end Tabular.Formula
