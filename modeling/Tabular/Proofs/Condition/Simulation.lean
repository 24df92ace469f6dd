import Tabular.Proofs.Condition.Completeness
import Tabular.Proofs.Condition.Cursor

set_option autoImplicit false

/-! # The cursor reads what the readers read

Over the tokens of a text, the steps of a cursor compute what the readers of conditions give: from a
call of a class of phrases they come to the condition that the reader of the class gives, with the
cursor where its tokens are left, or to its fault (`Arrives`). The levels that a reader is given are
those that the cursor has not opened yet.

This is shown for each reader, above any frames, from the readers it is made of, and so by induction
on the levels for all of them (`simulated_reader`).
-/

namespace Tabular.Condition.Machine

open StateTransition (Reaches)

/-! ## Streams of tokens -/

/-- The stream of the tokens of a text with the given number of bytes. -/
def Stream.ofTokens (tokens : List Token) (textEnd : Nat) : Stream :=
  ⟨tokens.map .token, textEnd⟩

/-- The entry where some tokens are left. -/
def Entry.ofHead (textEnd : Nat) : List Token → Entry
  | [] => .ending textEnd
  | t :: _ => .token t

/-- At a place in a list of tokens some are **left**. -/
structure Left (tokens : List Token) (pos : Nat) (ts : List Token) : Prop where
  le : pos ≤ tokens.length
  drop : tokens.drop pos = ts

section

variable {tokens ts : List Token} {textEnd pos : Nat} {t : Token}

theorem Left.getElem?_entries (h : Left tokens pos ts) :
    (Stream.ofTokens tokens textEnd).entries[pos]? = some (.ofHead textEnd ts) := by
  have hsplit : (Stream.ofTokens tokens textEnd).entries.drop pos =
      ts.map .token ++ [.ending textEnd] := by
    have hle : pos ≤ (tokens.map Entry.token).length := by simpa using h.le
    simp only [Stream.entries, Stream.ofTokens]
    rw [List.drop_append_of_le_length hle, ← List.map_drop, h.drop]
  rw [← List.head?_drop, hsplit]
  cases ts <;> rfl

theorem Left.peek (h : Left tokens pos ts) :
    (Stream.ofTokens tokens textEnd).peek pos = .ofHead textEnd ts := by
  rw [Stream.peek, List.getD_eq_getElem?_getD, h.getElem?_entries, Option.getD_some]

theorem Left.tail (h : Left tokens pos (t :: ts)) : Left tokens (pos + 1) ts := by
  have hlen := congrArg List.length h.drop
  simp only [List.length_drop, List.length_cons] at hlen
  refine ⟨by omega, ?_⟩
  rw [← List.drop_drop, h.drop, List.drop_one, List.tail_cons]

theorem Left.next (h : Left tokens pos (t :: ts)) :
    (Stream.ofTokens tokens textEnd).next pos = pos + 1 :=
  Stream.next_of_not_ending (by rw [h.peek]; rfl)

end

/-! ## Arriving at an outcome -/

/-- Reading **arrives** at an outcome: at a condition to hand over to the frames that wait, with the
cursor where tokens are left and as many levels open as given, or at a fault. -/
def Arrives (tokens : List Token) (textEnd : Nat) (s : State) (frames : List Frame) (depth : Nat) :
    Except Fault (Condition × List Token) → Prop
  | .ok (c, rest) => ∃ pos, Left tokens pos rest ∧
      Reaches (step (.ofTokens tokens textEnd)) s ⟨⟨pos, depth⟩, .give c, frames⟩
  | .error fault => ∃ p waiting,
      Reaches (step (.ofTokens tokens textEnd)) s ⟨p, .fail fault, waiting⟩

section

variable {tokens ts : List Token} {textEnd pos depth : Nat} {t : Token}
  {frames below push : List Frame} {frame : Frame} {task next : Task} {c : Condition}
  {outcome : Except Fault (Condition × List Token)}

theorem Arrives.after {s u : State} {outer : Nat}
    (h : Arrives tokens textEnd u below outer outcome)
    (hrun : Reaches (step (.ofTokens tokens textEnd)) s u) :
    Arrives tokens textEnd s below outer outcome := by
  match outcome, h with
  | .ok (c, rest), ⟨pos, hleft, hmore⟩ => exact ⟨pos, hleft, hrun.trans hmore⟩
  | .error fault, ⟨p, waiting, hmore⟩ => exact ⟨p, waiting, hrun.trans hmore⟩

/-- What is given is arrived at. -/
theorem arrives_give (h : Left tokens pos ts) (c : Condition) (frames : List Frame) :
    Arrives tokens textEnd ⟨⟨pos, depth⟩, .give c, frames⟩ frames depth (.ok (c, ts)) :=
  ⟨pos, h, .refl⟩

theorem arrives_fail (p : Cursor) (fault : Fault) (frames : List Frame) :
    Arrives tokens textEnd ⟨p, .fail fault, frames⟩ below depth (.error fault) :=
  ⟨p, frames, .refl⟩

/-- A reader **then** another: from where the first arrives, reading goes on. -/
theorem Arrives.bindOk {s : State} {outer : Nat} {f : Condition × List Token →
      Except Fault (Condition × List Token)}
    (h : Arrives tokens textEnd s frames depth outcome)
    (hf : ∀ c rest pos, outcome = .ok (c, rest) → Left tokens pos rest →
      Arrives tokens textEnd ⟨⟨pos, depth⟩, .give c, frames⟩ below outer (f (c, rest))) :
    Arrives tokens textEnd s below outer (outcome >>= f) := by
  match outcome, h with
  | .error fault, ⟨p, waiting, hrun⟩ => exact ⟨p, waiting, hrun⟩
  | .ok (c, rest), ⟨pos, hleft, hrun⟩ => exact (hf c rest pos rfl hleft).after hrun

theorem Arrives.bind {s : State} {outer : Nat} {f : Condition × List Token →
      Except Fault (Condition × List Token)}
    (h : Arrives tokens textEnd s frames depth outcome)
    (hf : ∀ c rest pos, Left tokens pos rest →
      Arrives tokens textEnd ⟨⟨pos, depth⟩, .give c, frames⟩ below outer (f (c, rest))) :
    Arrives tokens textEnd s below outer (outcome >>= f) :=
  h.bindOk fun c rest pos _ => hf c rest pos

/-! ### Steps on tokens -/

theorem step_act (hat : Left tokens pos ts) {m : Move}
    (hact : task.act (.ofHead textEnd ts) = some m) :
    step (.ofTokens tokens textEnd) ⟨⟨pos, depth⟩, task, frames⟩ =
      some (m.make (.ofTokens tokens textEnd) ⟨pos, depth⟩ frames) := by
  refine step_eq_some.mpr ⟨m, frames, move?_eq_some.mpr (.inr ⟨?_, rfl⟩), rfl⟩
  show task.act (Stream.peek _ pos) = some m
  rw [hat.peek, hact]

theorem Left.make_next (hat : Left tokens pos (t :: ts)) :
    Move.make ⟨.next, next, push⟩ (.ofTokens tokens textEnd) ⟨pos, depth⟩ frames =
      ⟨⟨pos + 1, depth⟩, next, push ++ frames⟩ := by
  simp only [Move.make, hat.next]

/-- A task that takes a token. -/
theorem Arrives.take {outer : Nat} (hat : Left tokens pos (t :: ts))
    (hact : task.act (.token t) = some ⟨.next, next, push⟩)
    (h : Left tokens (pos + 1) ts →
      Arrives tokens textEnd ⟨⟨pos + 1, depth⟩, next, push ++ frames⟩ below outer outcome) :
    Arrives tokens textEnd ⟨⟨pos, depth⟩, task, frames⟩ below outer outcome :=
  .after (hat.make_next ▸ h hat.tail) (.single (step_act hat hact))

/-- A task that takes no token. -/
theorem Arrives.wait {outer : Nat} (hat : Left tokens pos ts)
    (hact : task.act (.ofHead textEnd ts) = some ⟨.stay, next, push⟩)
    (h : Arrives tokens textEnd ⟨⟨pos, depth⟩, next, push ++ frames⟩ below outer outcome) :
    Arrives tokens textEnd ⟨⟨pos, depth⟩, task, frames⟩ below outer outcome :=
  h.after (.single (step_act hat hact))

/-- A task that finds no token to take. -/
theorem Arrives.miss {outer : Nat} {fault : Fault} (hat : Left tokens pos [])
    (hact : task.act (.ending textEnd) = some ⟨.next, .fail fault, push⟩) :
    Arrives tokens textEnd ⟨⟨pos, depth⟩, task, frames⟩ below outer (.error fault) :=
  (arrives_fail ..).after (.single (step_act hat hact))

theorem step_resume (hat : Left tokens pos ts) {m : Move}
    (hresume : frame.resume (.ofHead textEnd ts)
      (Stream.ofTokens tokens textEnd).entries[pos + 1]? c = m) :
    step (.ofTokens tokens textEnd) ⟨⟨pos, depth⟩, .give c, frame :: frames⟩ =
      some (m.make (.ofTokens tokens textEnd) ⟨pos, depth⟩ frames) := by
  refine step_eq_some.mpr ⟨m, frames, move?_eq_some.mpr (.inl ⟨c, frame, rfl, rfl, ?_⟩), rfl⟩
  rw [hat.peek]
  exact hresume.symm

/-- A frame that takes a token. -/
theorem Arrives.resumeTake {outer : Nat} (hat : Left tokens pos (t :: ts))
    (hresume : frame.resume (.token t) (Stream.ofTokens tokens textEnd).entries[pos + 1]? c =
      ⟨.next, next, push⟩)
    (h : Left tokens (pos + 1) ts →
      Arrives tokens textEnd ⟨⟨pos + 1, depth⟩, next, push ++ frames⟩ below outer outcome) :
    Arrives tokens textEnd ⟨⟨pos, depth⟩, .give c, frame :: frames⟩ below outer outcome :=
  .after (hat.make_next ▸ h hat.tail) (.single (step_resume hat hresume))

/-- A frame that takes no token. -/
theorem Arrives.resumeWait {outer : Nat} (hat : Left tokens pos ts)
    (hresume : frame.resume (.ofHead textEnd ts)
      (Stream.ofTokens tokens textEnd).entries[pos + 1]? c = ⟨.stay, next, push⟩)
    (h : Arrives tokens textEnd ⟨⟨pos, depth⟩, next, push ++ frames⟩ below outer outcome) :
    Arrives tokens textEnd ⟨⟨pos, depth⟩, .give c, frame :: frames⟩ below outer outcome :=
  h.after (.single (step_resume hat hresume))

/-- Behind an operand and `NOT`, a range is told from a match by the next token. -/
theorem Left.resume_not (textEnd : Nat) (a : Condition) (hat : Left tokens pos (t :: ts))
    (ht : t.keyword? = some .not) :
    Frame.first.resume (.token t) (Stream.ofTokens tokens textEnd).entries[pos + 1]? a =
      if (Entry.ofHead textEnd ts).keyword? = some .between then
        ⟨.next, .expect .between (.low true a), []⟩
      else ⟨.next, .wildcard true a, []⟩ := by
  rw [hat.tail.getElem?_entries]
  simp only [Frame.resume, Entry.asked, Entry.keyword?, ht, Option.bind_some]

/-! ## Operands -/

theorem arrives_name {opened : Nat} {sofar : String} (hat : Left tokens pos ts) :
    Arrives tokens textEnd ⟨⟨pos, depth⟩, .name opened sofar, frames⟩ frames depth
      (readName textEnd opened sofar ts) := by
  induction ts generalizing pos sofar with
  | nil => exact .miss hat rfl
  | cons t ts ih =>
      by_cases hbrace : t.isBrace = true
      · refine .take hat rfl fun hrest => ?_
        obtain ⟨lexeme, text, offset⟩ := t
        cases lexeme with
        | closeBrace =>
            simp only [Entry.namePart, readName]
            split
            · exact arrives_fail ..
            · exact arrives_give hrest ..
        | openBrace => exact arrives_fail ..
        | _ => cases hbrace
      · have hpart : t.isBrace = false := Bool.eq_false_iff.mpr hbrace
        have hact : Task.act (.token t) (.name opened sofar) =
            some ⟨.next, .name opened (joinName sofar t.part), []⟩ := by
          obtain ⟨lexeme, text, offset⟩ := t
          cases lexeme with
          | openBrace | closeBrace => cases hpart
          | _ => rfl
        rw [readName_part hpart]
        exact .take hat hact ih

/-- A call of a class arrives at what a reader gives, wherever it is made with some levels open. -/
def Simulated (tokens : List Token) (textEnd depth : Nat) (cat : Category) (read : Reader) : Prop :=
  ∀ (pos : Nat) (ts : List Token) (frames : List Frame), Left tokens pos ts →
    Arrives tokens textEnd ⟨⟨pos, depth⟩, .call cat, frames⟩ frames depth (read ts)

/-- A level that may be opened is opened. -/
theorem Arrives.enter {outer offset : Nat} {l : Level} {p : Cursor}
    (hdepth : p.depth < nestingLimit)
    (h : Arrives tokens textEnd ⟨⟨p.pos, p.depth + 1⟩, .call l.category, .inside l :: frames⟩ below
      outer outcome) :
    Arrives tokens textEnd ⟨p, .enter l offset, frames⟩ below outer outcome := by
  refine h.after (.single (step_eq_some.mpr ⟨_, _, rfl, ?_⟩))
  simp only [Move.make, if_pos hdepth, List.singleton_append]

/-- No level is opened beyond the limit. -/
theorem arrives_tooDeep {outer offset : Nat} {l : Level} {p : Cursor}
    (hdepth : p.depth = nestingLimit) : Arrives tokens textEnd ⟨p, .enter l offset, frames⟩ below
      outer (.error (.placed .nestedTooDeeply offset)) := by
  refine (arrives_fail p _ frames).after (.single (step_eq_some.mpr ⟨_, _, rfl, ?_⟩))
  simp only [Move.make, hdepth, lt_irrefl, if_false]

/-- A parenthesis is closed at a closing one. -/
theorem arrives_close : Left tokens pos ts →
    Arrives tokens textEnd ⟨⟨pos, depth⟩, .close c, frames⟩ frames depth
      (match ts with
      | ⟨.closing, _, _⟩ :: rest => pure (c, rest)
      | _ => throw (.placed (.expectedClosing (found ts)) (place textEnd ts))) := by
  intro hat
  cases ts with
  | nil => exact .miss hat rfl
  | cons t ts =>
      refine .take hat rfl fun hrest => ?_
      obtain ⟨lexeme, text, offset⟩ := t
      cases lexeme with
      | closing => exact arrives_give hrest ..
      | _ => exact arrives_fail ..

/-- Operands are read with the cursor when, on the next level, disjunctions are. -/
theorem simulated_readOperand {levels : Nat} (hlevels : depth + levels = nestingLimit)
    (hinner : ∀ read ∈ inner textEnd levels,
      Simulated tokens textEnd (depth + 1) (.chain .or) read) :
    Simulated tokens textEnd depth .operand (readOperand textEnd (inner textEnd levels)) := by
  intro pos ts frames hat
  cases ts with
  | nil => exact .miss hat rfl
  | cons t ts =>
      refine .take hat rfl fun hrest => ?_
      obtain ⟨lexeme, text, offset⟩ := t
      cases lexeme with
      | number v => exact arrives_give hrest ..
      | quoted s => exact arrives_give hrest ..
      | word w =>
          rw [readOperand_word rfl]
          exact arrives_give hrest ..
      | openBrace => exact arrives_name hrest
      | opening =>
          cases levels with
          | zero => exact arrives_tooDeep (by simpa using hlevels)
          | succ levels =>
              have hdepth : depth < nestingLimit := by omega
              refine .enter hdepth (.bind (hinner _ rfl (pos + 1) ts _ hrest) ?_)
              intro c rest pos hat
              have hleave : step (.ofTokens tokens textEnd)
                  ⟨⟨pos, depth + 1⟩, .give c, .inside .parens :: ([] ++ frames)⟩ =
                    some ⟨⟨pos, depth⟩, .close c, frames⟩ := rfl
              exact (arrives_close hat).after (.single hleave)
      | relation _ | matching _ | closing | closeBrace | comma => exact arrives_fail ..

/-! ## Comparisons -/

section

variable {operand : Reader} (hop : Simulated tokens textEnd depth .operand operand)
include hop

/-- A keyword is taken, and then the operand that is wanted behind it. -/
theorem arrives_expect {k : Keyword} {w : Want}
    {f : Condition × List Token → Except Fault (Condition × List Token)}
    (hat : Left tokens pos ts)
    (hf : ∀ x rest pos, Left tokens pos rest → Arrives tokens textEnd
      ⟨⟨pos, depth⟩, .give x, .more w :: frames⟩ frames depth (f (x, rest))) :
    Arrives tokens textEnd ⟨⟨pos, depth⟩, .expect k w, frames⟩ frames depth (do
      let rest ← expectKeyword textEnd k ts
      let read ← operand rest
      f read) := by
  cases ts with
  | nil => exact .wait hat rfl (arrives_fail ..)
  | cons t ts =>
      by_cases hk : t.keyword? = some k
      · have hact : Task.act (.token t) (.expect k w) =
            some ⟨.next, .call .operand, [.more w]⟩ := congrArg some (if_pos hk)
        simp only [expectKeyword, if_pos hk]
        refine .take hat hact fun hrest => ?_
        exact .bind (hop _ _ _ hrest) hf
      · have hact : Task.act (.ofHead textEnd (t :: ts)) (.expect k w) = some ⟨.stay,
            .fail (.placed (.expectedKeyword k.word (some t.text)) t.offset), []⟩ :=
          congrArg some (if_neg hk)
        simp only [expectKeyword, if_neg hk]
        exact .wait hat hact (arrives_fail ..)

/-- The other operand of a question completes it. -/
theorem arrives_answer {q : Question} {a : Condition} (hat : Left tokens pos ts) :
    Arrives tokens textEnd ⟨⟨pos, depth⟩, .call .operand, .more (.answer q a) :: frames⟩ frames
      depth (do
        let (x, rest) ← operand ts
        pure (q.join a x, rest)) := by
  refine .bind (hop _ _ _ hat) fun x rest pos hrest => ?_
  exact (arrives_give hrest (q.join a x) frames).after (.single rfl)

omit hop in
theorem expectKeyword_cons {k : Keyword} (ht : t.keyword? = some k) :
    expectKeyword textEnd k (t :: ts) = .ok ts := if_pos ht

/-- The bounds of a range are read behind its keyword. -/
theorem arrives_bounds {negated : Bool} {a : Condition} (hat : Left tokens pos (t :: ts))
    (ht : t.keyword? = some .between) :
    Arrives tokens textEnd ⟨⟨pos, depth⟩, .expect .between (.low negated a), frames⟩ frames depth
      (readBounds textEnd operand negated a ts) := by
  have h : Arrives tokens textEnd ⟨⟨pos, depth⟩, .expect .between (.low negated a), frames⟩ frames
      depth (do
        let rest ← expectKeyword textEnd .between (t :: ts)
        readBounds textEnd operand negated a rest) := by
    refine arrives_expect hop hat fun low rest pos hrest => ?_
    have hlow : step (.ofTokens tokens textEnd)
        ⟨⟨pos, depth⟩, .give low, .more (.low negated a) :: frames⟩ =
          some ⟨⟨pos, depth⟩, .expect .and (.high negated a low), frames⟩ := rfl
    refine (arrives_expect hop hrest fun high rest pos hrest => ?_).after (.single hlow)
    exact (arrives_give hrest (.between negated a low high) frames).after (.single rfl)
  rwa [expectKeyword_cons ht] at h

/-- The wildcard text of a match is read behind `ILIKE`. -/
theorem arrives_ilike {negated : Bool} {a : Condition} (hat : Left tokens pos (t :: ts))
    (ht : t.keyword? = some .ilike) :
    Arrives tokens textEnd ⟨⟨pos, depth⟩, .wildcard negated a, frames⟩ frames depth (do
      let (x, rest) ← operand ts
      pure (.like true negated a x, rest)) := by
  have hact : Task.act (.token t) (.wildcard negated a) =
      some ⟨.next, .call .operand, [.more (.answer (.like true negated) a)]⟩ :=
    congrArg some (if_pos ht)
  exact .take hat hact fun hrest => arrives_answer hop hrest

/-- The wildcard text of a match is read behind `LIKE`, when no `ILIKE` is there. -/
theorem arrives_like (hat : Left tokens pos ts) (hts : ∀ t ∈ ts.head?, t.keyword? ≠ some .ilike)
    (negated : Bool) (a : Condition) (frames : List Frame) :
    Arrives tokens textEnd ⟨⟨pos, depth⟩, .wildcard negated a, frames⟩ frames depth (do
      let rest ← expectKeyword textEnd .like ts
      let (x, rest) ← operand rest
      pure (.like false negated a x, rest)) := by
  have hnow : (Entry.ofHead textEnd ts).keyword? ≠ some .ilike := by
    cases ts with
    | nil => exact nofun
    | cons t ts => exact hts t rfl
  have hact : Task.act (.ofHead textEnd ts) (.wildcard negated a) =
      some ⟨.stay, .expect .like (.answer (.like false negated) a), []⟩ :=
    congrArg some (if_neg hnow)
  refine .wait hat hact (arrives_expect hop hat fun x rest pos hrest => ?_)
  exact (arrives_give hrest (.like false negated a x) frames).after (.single rfl)

/-- What follows `NOT` after an operand is read as a range or a match that is negated. -/
theorem arrives_negated {a : Condition} : Left tokens pos (t :: ts) → t.keyword? = some .not →
    Arrives tokens textEnd ⟨⟨pos, depth⟩, .give a, .first :: frames⟩ frames depth
      (match ts with
      | [] => throw (.placed (.expectedKeyword Keyword.like.word none) textEnd)
      | u :: afterNot =>
        match u.keyword? with
        | some .between => readBounds textEnd operand true a afterNot
        | some .ilike => do
          let (x, rest) ← operand afterNot
          pure (.like true true a x, rest)
        | _ => do
          let rest ← expectKeyword textEnd .like ts
          let (x, rest) ← operand rest
          pure (.like false true a x, rest)) := by
  intro hat ht
  have hresume := hat.resume_not textEnd a ht
  cases ts with
  | nil => exact .resumeTake hat hresume fun hrest => arrives_like hop hrest nofun ..
  | cons u afterNot =>
      change _ = if u.keyword? = some .between then _ else _ at hresume
      dsimp only
      split
      · rename_i hu
        rw [if_pos hu] at hresume
        exact .resumeTake hat hresume fun hrest => arrives_bounds hop hrest hu
      · rename_i hu
        rw [if_neg (by simp [hu])] at hresume
        exact .resumeTake hat hresume fun hrest => arrives_ilike hop hrest hu
      · rename_i hbetween hilike
        rw [if_neg hbetween] at hresume
        have hne : ∀ v ∈ (u :: afterNot).head?, v.keyword? ≠ some .ilike := by
          intro v hv
          cases hv
          exact hilike
        exact .resumeTake hat hresume fun hrest => arrives_like hop hrest hne ..

/-- **Comparisons** are read with the cursor when operands are. -/
theorem simulated_readComparison :
    Simulated tokens textEnd depth .comparison (readComparison textEnd operand) := by
  intro pos ts frames hat
  refine .wait hat rfl (.bind (hop _ _ _ hat) ?_)
  intro a rest pos hat
  cases rest with
  | nil => exact .resumeWait hat rfl (arrives_give hat ..)
  | cons t after =>
      -- the cases are those of the match on the token behind the operand
      dsimp only
      split
      · rename_i ignoreCase ht
        have hresume (ahead : Option Entry) : Frame.first.resume (.token t) ahead a =
            ⟨.next, .call .operand, [.more (.answer (.matching ignoreCase) a)]⟩ := by
          simp only [Frame.resume, Entry.asked, Entry.question, Entry.keyword?, Token.keyword?, ht]
        exact .resumeTake hat (hresume _) fun hrest => arrives_answer hop hrest
      · rename_i r ht
        have hresume (ahead : Option Entry) : Frame.first.resume (.token t) ahead a =
            ⟨.next, .call .operand, [.more (.answer (.relation r) a)]⟩ := by
          simp only [Frame.resume, Entry.asked, Entry.question, Entry.keyword?, Token.keyword?, ht]
        exact .resumeTake hat (hresume _) fun hrest => arrives_answer hop hrest
      · rename_i ht _ _
        have hresume (ahead : Option Entry) : Frame.first.resume (.token t) ahead a =
            ⟨.stay, .expect .between (.low false a), []⟩ := by
          simp only [Frame.resume, Entry.asked, Entry.keyword?, ht]
        exact .resumeWait hat (hresume _) (arrives_bounds hop hat ht)
      · rename_i ht _ _
        have hresume (ahead : Option Entry) : Frame.first.resume (.token t) ahead a =
            ⟨.stay, .wildcard false a, []⟩ := by
          simp only [Frame.resume, Entry.asked, Entry.keyword?, ht]
        have hlike := arrives_like hop hat (by simp [ht]) false a frames
        rw [expectKeyword_cons ht] at hlike
        exact .resumeWait hat (hresume _) hlike
      · rename_i ht _ _
        have hresume (ahead : Option Entry) : Frame.first.resume (.token t) ahead a =
            ⟨.stay, .wildcard false a, []⟩ := by
          simp only [Frame.resume, Entry.asked, Entry.keyword?, ht]
        exact .resumeWait hat (hresume _) (arrives_ilike hop hat ht)
      · rename_i ht _ _
        exact arrives_negated hop hat ht
      -- no other case of the match applies
      · have hresume (ahead : Option Entry) :
            Frame.first.resume (.token t) ahead a = ⟨.stay, .give a, []⟩ := by
          simp only [Frame.resume, Entry.asked, Entry.keyword?, Entry.question]
        exact .resumeWait hat (hresume _) (arrives_give hat ..)

end

/-! ## Chains -/

/-- A reader takes one token at least. -/
theorem length_lt_of_reader {levels : Nat} {cat : Category} {rest : List Token}
    (h : reader textEnd levels cat ts = .ok (c, rest)) : rest.length < ts.length := by
  obtain ⟨used, a, rfl, ha, -, -⟩ := sound_reader levels cat ts c rest h
  obtain ⟨t, us, rfl⟩ := ha.exists_cons
  simp only [List.cons_append, List.length_cons, List.length_append]
  omega

section

variable {word : Connective} {levels : Nat}
  (hpart : Simulated tokens textEnd depth word.part (reader textEnd levels word.part))
include hpart

/-- The operands of a chain are read with the cursor, behind earlier ones. A budget of as many
tokens as there are never runs out, since every operand takes one. -/
theorem arrives_operands {budget : List Token} {earlier : List Condition}
    (hat : Left tokens pos ts) (hbudget : ts.length ≤ budget.length) :
    Arrives tokens textEnd ⟨⟨pos, depth⟩, .call word.part, .chain word earlier :: frames⟩ frames
      depth (do
        let ((first, others), rest) ←
          readOperands word.keyword (reader textEnd levels word.part) budget ts
        pure (chained word (earlier ++ first :: others), rest)) := by
  induction budget generalizing ts pos earlier with
  -- without a budget there is no token, and an operand takes one
  | nil =>
      rw [readOperands_nil, bind_assoc]
      refine .bindOk (hpart _ _ _ hat) fun first rest pos hread _ => ?_
      have hlt := length_lt_of_reader hread
      simp only [List.length_nil] at hbudget
      omega
  | cons b budget ih =>
      rw [readOperands_cons, bind_assoc]
      refine .bindOk (hpart _ _ _ hat) fun first rest pos hread hrest => ?_
      have hlt := length_lt_of_reader hread
      cases rest with
      | nil =>
          exact .resumeWait hrest rfl (arrives_give hrest ..)
      | cons t after =>
          by_cases hword : t.keyword? = some word.keyword
          · have hresume (ahead : Option Entry) :
                (Frame.chain word earlier).resume (.token t) ahead first =
                  ⟨.next, .call word.part, [.chain word (earlier ++ [first])]⟩ := if_pos hword
            simp only [List.length_cons] at hlt hbudget
            refine .resumeTake hrest (hresume _) fun hafter => ?_
            have happend : ∀ second others, earlier ++ first :: second :: others =
                (earlier ++ [first]) ++ second :: others := by
              intro second others
              rw [List.append_assoc, List.singleton_append]
            simp only [if_pos hword, bind_assoc, pure_bind, happend]
            exact ih hafter (by omega)
          · have hresume (ahead : Option Entry) :
                (Frame.chain word earlier).resume (.token t) ahead first =
                  ⟨.stay, .give (chained word (earlier ++ [first])), []⟩ := if_neg hword
            simp only [if_neg hword]
            exact .resumeWait hrest (hresume _) (arrives_give hrest ..)

/-- **Chains** are read with the cursor when their operands are. -/
theorem simulated_chain :
    Simulated tokens textEnd depth (.chain word) (reader textEnd levels (.chain word)) := by
  intro pos ts frames hat
  rw [reader_chain]
  exact .wait hat rfl (arrives_operands hpart hat le_rfl)

end

/-! ## Negations, and all classes -/

/-- Without `NOT` in front, a comparison is read. -/
theorem readNegation_of_head {levels : Nat} (h : ∀ t ∈ ts.head?, t.keyword? ≠ some .not) :
    reader textEnd levels .negation ts = reader textEnd levels .comparison ts := by
  cases ts with
  | nil => cases levels <;> rfl
  | cons t ts => exact readNegation_asserted (h t rfl)

section

variable {levels : Nat} (hlevels : depth + levels = nestingLimit)
  (hnext : ∀ next, levels = next + 1 →
    Simulated tokens textEnd (depth + 1) .negation (reader textEnd next .negation))
include hlevels hnext

theorem simulated_operand :
    Simulated tokens textEnd depth .operand (reader textEnd levels .operand) := by
  refine simulated_readOperand hlevels fun read hread => ?_
  cases levels with
  | zero => cases hread
  | succ next =>
      cases hread
      have hand : Simulated tokens textEnd (depth + 1) (.chain .and)
          (reader textEnd next (.chain .and)) := simulated_chain (hnext next rfl)
      have hor : Simulated tokens textEnd (depth + 1) (.chain .or)
          (reader textEnd next (.chain .or)) := simulated_chain hand
      exact hor

/-- What does not begin with `NOT` is read as a comparison. -/
theorem arrives_asserted (hat : Left tokens pos ts)
    (hts : ∀ t ∈ ts.head?, t.keyword? ≠ some .not) :
    Arrives tokens textEnd ⟨⟨pos, depth⟩, .call .negation, frames⟩ frames depth
      (reader textEnd levels .negation ts) := by
  have hnow : (Entry.ofHead textEnd ts).keyword? ≠ some .not := by
    cases ts with
    | nil => exact nofun
    | cons t ts => exact hts t rfl
  have hact : Task.act (.ofHead textEnd ts) (.call .negation) =
      some ⟨.stay, .call .comparison, []⟩ := congrArg some (if_neg hnow)
  rw [readNegation_of_head hts]
  exact .wait hat hact
    (simulated_readComparison (simulated_operand hlevels hnext) _ _ _ hat)

/-- What begins with `NOT` is read as a negation on the next level, if there is one. -/
theorem arrives_not (hat : Left tokens pos (t :: ts)) (ht : t.keyword? = some .not) :
    Arrives tokens textEnd ⟨⟨pos, depth⟩, .call .negation, frames⟩ frames depth
      (reader textEnd levels .negation (t :: ts)) := by
  have hact : Task.act (.token t) (.call .negation) =
      some ⟨.next, .enter .negation t.offset, []⟩ := congrArg some (if_pos ht)
  refine .take hat hact fun hrest => ?_
  cases levels with
  | zero =>
      rw [reader, readNegation, if_pos ht]
      exact arrives_tooDeep hlevels
  | succ next =>
      have hdepth : depth < nestingLimit := by omega
      rw [reader, readNegation_not ht]
      refine .enter hdepth (.bind (hnext next rfl _ _ _ hrest) fun c rest pos hat => ?_)
      have hleave : step (.ofTokens tokens textEnd)
          ⟨⟨pos, depth + 1⟩, .give c, .inside .negation :: ([] ++ frames)⟩ =
            some ⟨⟨pos, depth⟩, .give (.not c), frames⟩ := rfl
      exact (arrives_give hat (.not c) frames).after (.single hleave)

/-- A level is read with the cursor when the next one is. -/
theorem simulated_level :
    Simulated tokens textEnd depth .negation (reader textEnd levels .negation) := by
  intro pos ts frames hat
  cases ts with
  | nil => exact arrives_asserted hlevels hnext hat nofun
  | cons t ts =>
      by_cases ht : t.keyword? = some .not
      · exact arrives_not hlevels hnext hat ht
      · refine arrives_asserted hlevels hnext hat fun u hu => ?_
        cases hu
        exact ht

end

theorem simulated_negation {levels : Nat} (hlevels : depth + levels = nestingLimit) :
    Simulated tokens textEnd depth .negation (reader textEnd levels .negation) := by
  induction levels generalizing depth with
  | zero => exact simulated_level hlevels nofun
  | succ levels ih =>
      refine simulated_level hlevels fun next hnext => ?_
      obtain rfl := Nat.succ.inj hnext
      exact ih (by omega)

/-- **The cursor reads what the readers read**, for every class of phrases, with as many levels open
as the reader is not given. -/
theorem simulated_reader {levels : Nat} (hlevels : depth + levels = nestingLimit)
    (cat : Category) : Simulated tokens textEnd depth cat (reader textEnd levels cat) := by
  have hnegation : Simulated tokens textEnd depth .negation (reader textEnd levels .negation) :=
    simulated_negation hlevels
  have hoperand : Simulated tokens textEnd depth .operand (reader textEnd levels .operand) := by
    refine simulated_operand hlevels fun next hnext => simulated_negation (by omega)
  have hand : Simulated tokens textEnd depth (.chain .and) (reader textEnd levels (.chain .and)) :=
    simulated_chain hnegation
  match cat with
  | .operand => exact hoperand
  | .comparison => exact simulated_readComparison hoperand
  | .negation => exact hnegation
  | .chain .and => exact hand
  | .chain .or => exact simulated_chain hand

end

/-! ## Calls and whole texts -/

section

variable {tokens : List Token} {textEnd : Nat}

theorem Left.unique {pos pos' : Nat} {ts : List Token} (h : Left tokens pos ts)
    (h' : Left tokens pos' ts) : pos = pos' := by
  have hlen := congrArg List.length (h.drop.trans h'.drop.symm)
  have hle := h.le
  have hle' := h'.le
  simp only [List.length_drop] at hlen
  omega

/-- **A phrase is read by itself exactly when the reader of its class takes it**, off the tokens at
the cursor and with the levels that are not open there. -/
theorem returns_iff {pos levels depth : Nat} {cat : Category} {c : Condition} {q : Cursor}
    (hpos : pos ≤ tokens.length) (hlevels : depth + levels = nestingLimit) :
    Returns (.ofTokens tokens textEnd) cat ⟨pos, depth⟩ c q ↔
      reader textEnd levels cat (tokens.drop pos) = .ok (c, tokens.drop q.pos) ∧
        q.pos ≤ tokens.length ∧ q.depth = depth := by
  have harrives : Arrives tokens textEnd ⟨⟨pos, depth⟩, .call cat, []⟩ [] depth
      (reader textEnd levels cat (tokens.drop pos)) :=
    simulated_reader hlevels cat pos _ [] ⟨hpos, rfl⟩
  cases hread : reader textEnd levels cat (tokens.drop pos) with
  | error fault =>
      rw [hread] at harrives
      obtain ⟨p, waiting, hfail⟩ := harrives
      constructor
      · intro hreturns
        cases eq_of_stopped hreturns hfail (step_given q c) (step_failed p fault waiting)
      · rintro ⟨hok, -⟩
        cases hok
  | ok result =>
      obtain ⟨c', rest⟩ := result
      rw [hread] at harrives
      obtain ⟨pos', hleft, hreturns'⟩ := harrives
      constructor
      · intro hreturns
        obtain ⟨rfl, rfl⟩ := Returns.unique hreturns' hreturns
        exact ⟨by rw [hleft.drop], hleft.le, rfl⟩
      · rintro ⟨hok, hle, hdepth⟩
        cases hok
        obtain ⟨qpos, qdepth⟩ := q
        obtain rfl : qpos = pos' := Left.unique ⟨hle, rfl⟩ hleft
        obtain rfl : qdepth = depth := hdepth
        exact hreturns'

/-- **Over the tokens of a text, reading stops with what the text is read as.** -/
theorem exists_outcome (tokens : List Token) (textEnd : Nat) :
    ∃ s, Reaches (step (.ofTokens tokens textEnd)) start s ∧
      outcome? (.ofTokens tokens textEnd) s = some (Condition.ofTokens tokens textEnd) := by
  have harrives : Arrives tokens textEnd start [] 0
      (reader textEnd nestingLimit (.chain .or) tokens) :=
    simulated_reader (Nat.zero_add nestingLimit) (.chain .or) 0 tokens [] ⟨Nat.zero_le _, rfl⟩
  have hdef : Condition.ofTokens tokens textEnd =
      (reader textEnd nestingLimit (.chain .or) tokens >>= fun (c, rest) =>
        match rest with
        | [] => pure c
        | t :: _ => throw (.placed (.trailingInput (some t.text)) t.offset)) := rfl
  rw [hdef]
  cases hread : reader textEnd nestingLimit (.chain .or) tokens with
  | error fault =>
      rw [hread] at harrives
      obtain ⟨p, waiting, hfail⟩ := harrives
      exact ⟨_, hfail, rfl⟩
  | ok result =>
      obtain ⟨c, rest⟩ := result
      rw [hread] at harrives
      obtain ⟨pos, hleft, hgive⟩ := harrives
      refine ⟨_, hgive, ?_⟩
      simp only [outcome?, hleft.peek]
      cases rest <;> rfl

end

end Tabular.Condition.Machine
