import Mathlib.Computability.StateTransition
import Tabular.Proofs.Condition.Grammar

set_option autoImplicit false

/-! # Reading conditions with a cursor

The reading of a condition, one step after another. What is read is a list of entries that an end
closes. A **cursor** is a place in that list together with the number of open levels, which are
parentheses and negations. A **state** is a cursor with the task at hand and a stack of **frames**,
one for every phrase that waits for a part of it.

A step moves the cursor by one entry at most. It looks at the entry at the cursor and, after the
first operand of a comparison, at the entry behind it too, which tells a negated range from a
negated match. No step passes an end and no level is opened beyond `nestingLimit`, so a cursor stays
within bounds (`step_isWithin`). A step does not look at the frames below the first, so a phrase is
read the same way whatever waits for it (`step_above`, `within_or_returned`).
-/

namespace Tabular.Condition.Machine

open StateTransition (Reaches)

/-! ## Entries -/

/-- An **entry** of a list to read: a token, an operator that conditions do not have, or an end. -/
inductive Entry where
  | token (t : Token)
  | operator (symbol : String) (offset : Nat)
  | ending (offset : Nat)

namespace Entry

/-- The place of an entry in the text. -/
def offset : Entry → Nat
  | token t => t.offset
  | operator _ offset | ending offset => offset

/-- The characters of an entry, unless it is an end. -/
def found : Entry → Option String
  | token t => some t.text
  | operator symbol _ => some symbol
  | ending _ => none

/-- The keyword that an entry spells. -/
def keyword? : Entry → Option Keyword
  | token t => t.keyword?
  | operator _ _ | ending _ => none

/-- Whether an entry is an end. -/
def isEnding : Entry → Bool
  | ending _ => true
  | token _ | operator _ _ => false

end Entry

/-- A **stream** of entries: the end of the text stands behind all others. -/
structure Stream where
  front : List Entry
  textEnd : Nat

namespace Stream

/-- All entries of a stream. -/
def entries (S : Stream) : List Entry := S.front ++ [.ending S.textEnd]

/-- The entry at a place; it is the last one from there on. -/
def peek (S : Stream) (pos : Nat) : Entry := S.entries.getD pos (.ending S.textEnd)

/-- The place behind a place, or the same place when an end stands there. -/
def next (S : Stream) (pos : Nat) : Nat := if (S.peek pos).isEnding then pos else pos + 1

/-- The place of the first end. -/
def firstEnd (S : Stream) : Nat := S.entries.findIdx Entry.isEnding

end Stream

/-! ## States -/

/-- A place in a stream, and how many levels are open there. -/
structure Cursor where
  pos : Nat
  depth : Nat

/-- What opens a level. -/
inductive Level where
  | negation
  | parens

/-- The class of the phrases on a level. -/
def Level.category : Level → Category
  | negation => .negation
  | parens => .chain .or

/-- What a comparison wants one more operand for. -/
inductive Want where
  /-- As the other operand of a question. -/
  | answer (q : Question) (a : Condition)
  /-- As the lower bound of a range. -/
  | low (negated : Bool) (target : Condition)
  /-- As the upper bound of a range. -/
  | high (negated : Bool) (target low : Condition)

/-- What waits for a phrase. -/
inductive Frame where
  /-- A chain, for its next operand. -/
  | chain (c : Connective) (earlier : List Condition)
  /-- A level, for the phrase on it. -/
  | inside (l : Level)
  /-- A comparison, for its first operand. -/
  | first
  /-- A comparison, for one more operand. -/
  | more (w : Want)

/-- What is to be done. -/
inductive Task where
  /-- Read a phrase of a class. -/
  | call (cat : Category)
  /-- Open a level for what stands at a place of the text. -/
  | enter (l : Level) (offset : Nat)
  /-- Take a closing parenthesis. -/
  | close (c : Condition)
  /-- Take the next part of a name in braces that were opened at a place of the text. -/
  | name (opened : Nat) (name : String)
  /-- Take a keyword and read the operand that is wanted behind it. -/
  | expect (k : Keyword) (w : Want)
  /-- Take the keyword of a match and read its wildcard text. -/
  | wildcard (negated : Bool) (value : Condition)
  /-- Hand over the phrase that was read. -/
  | give (c : Condition)
  /-- Report a fault. -/
  | fail (fault : Fault)

/-- A cursor with the task there and the frames that wait, the innermost first. -/
structure State where
  cursor : Cursor
  task : Task
  frames : List Frame

/-! ## Moves -/

/-- How a step moves the cursor. -/
inductive Motion where
  | stay
  /-- Take an entry. -/
  | next
  /-- Open a level for what stands at a place of the text. -/
  | enter (offset : Nat)
  /-- Close a level. -/
  | leave

/-- What a step does: a motion, and then the next task with the frames that will wait for it. -/
structure Move where
  motion : Motion
  task : Task
  push : List Frame

/-- Stay, and report a fault at an entry. -/
def Entry.blame (now : Entry) (cause : Cause) : Task := .fail (.placed cause now.offset)

/-- The task after an entry where an operand has to stand. -/
def Entry.operand (now : Entry) : Task :=
  match now with
  | token t =>
    match t.lexeme with
    | .opening => .enter .parens t.offset
    | .number v => .give (.number v)
    | .quoted s => .give (.text s)
    | .openBrace => .name t.offset ""
    | .word w => .give (wordCondition w)
    | _ => now.blame (.unexpectedToken now.found)
  | operator _ _ | ending _ => now.blame (.unexpectedToken now.found)

/-- The task after an entry where a parenthesis has to be closed. -/
def Entry.closing (now : Entry) (c : Condition) : Task :=
  match now with
  | token ⟨.closing, _, _⟩ => .give c
  | _ => now.blame (.expectedClosing now.found)

/-- The task after an entry within a name in braces. -/
def Entry.namePart (now : Entry) (opened : Nat) (name : String) : Task :=
  match now with
  | token t =>
    match t.lexeme with
    | .closeBrace => if name = "" then .fail (.placed .emptyName opened) else .give (.column name)
    | .openBrace => now.blame .braceInName
    | _ => .name opened (joinName name t.part)
  | operator symbol _ => .name opened (joinName name symbol)
  | ending _ => .fail (.placed .unclosedBrace opened)

/-- What is done after the first operand of a comparison, when no keyword follows. -/
def Entry.question (now : Entry) (a : Condition) : Move :=
  match now with
  | token t =>
    match t.lexeme with
    | .matching ignoreCase => ⟨.next, .call .operand, [.more (.answer (.matching ignoreCase) a)]⟩
    | .relation r => ⟨.next, .call .operand, [.more (.answer (.relation r) a)]⟩
    | _ => ⟨.stay, .give a, []⟩
  | operator symbol _ => ⟨.stay, now.blame (.unexpectedOperator symbol), []⟩
  | ending _ => ⟨.stay, .give a, []⟩

/-- What is done after the first operand of a comparison. -/
def Entry.asked (now : Entry) (ahead : Option Entry) (a : Condition) : Move :=
  match now.keyword? with
  | some .between => ⟨.stay, .expect .between (.low false a), []⟩
  | some .like | some .ilike => ⟨.stay, .wildcard false a, []⟩
  | some .not =>
    if ahead.bind Entry.keyword? = some .between then
      ⟨.next, .expect .between (.low true a), []⟩
    else ⟨.next, .wildcard true a, []⟩
  | _ => now.question a

/-- What is done for a task, given the entry at the cursor. -/
def Task.act (now : Entry) : Task → Option Move
  | call (.chain c) => some ⟨.stay, .call c.part, [.chain c []]⟩
  | call .negation =>
    some (if now.keyword? = some .not then ⟨.next, .enter .negation now.offset, []⟩
      else ⟨.stay, .call .comparison, []⟩)
  | call .comparison => some ⟨.stay, .call .operand, [.first]⟩
  | call .operand => some ⟨.next, now.operand, []⟩
  | enter l offset => some ⟨.enter offset, .call l.category, [.inside l]⟩
  | close c => some ⟨.next, now.closing c, []⟩
  | name opened sofar => some ⟨.next, now.namePart opened sofar, []⟩
  | expect k w =>
    some (if now.keyword? = some k then ⟨.next, .call .operand, [.more w]⟩
      else ⟨.stay, now.blame (.expectedKeyword k.word now.found), []⟩)
  | wildcard negated value =>
    some (if now.keyword? = some .ilike then
        ⟨.next, .call .operand, [.more (.answer (.like true negated) value)]⟩
      else ⟨.stay, .expect .like (.answer (.like false negated) value), []⟩)
  | give _ | fail _ => none

/-- The chain of operands; there is at least one. -/
def chained (c : Connective) : List Condition → Condition
  | [] => .number 0
  | first :: others => balance c.join first others

/-- The task of a comparison that has got the operand it wanted. -/
def Want.granted (x : Condition) : Want → Task
  | answer q a => .give (q.join a x)
  | low negated target => .expect .and (.high negated target x)
  | high negated target least => .give (.between negated target least x)

/-- What a frame does with the phrase it waited for, given the entry at the cursor and the one
behind it. -/
def Frame.resume (now : Entry) (ahead : Option Entry) (x : Condition) : Frame → Move
  | chain c earlier =>
    if now.keyword? = some c.keyword then ⟨.next, .call c.part, [.chain c (earlier ++ [x])]⟩
    else ⟨.stay, .give (chained c (earlier ++ [x])), []⟩
  | inside .negation => ⟨.leave, .give (.not x), []⟩
  | inside .parens => ⟨.leave, .close x, []⟩
  | first => now.asked ahead x
  | more w => ⟨.stay, w.granted x, []⟩

/-- Makes a move at a cursor above the frames that are left. -/
def Move.make (m : Move) (S : Stream) (p : Cursor) (frames : List Frame) : State :=
  match m.motion with
  | .stay => ⟨p, m.task, m.push ++ frames⟩
  | .next => ⟨⟨S.next p.pos, p.depth⟩, m.task, m.push ++ frames⟩
  | .enter offset =>
    if p.depth < nestingLimit then ⟨⟨p.pos, p.depth + 1⟩, m.task, m.push ++ frames⟩
    else ⟨p, .fail (.placed .nestedTooDeeply offset), frames⟩
  | .leave => ⟨⟨p.pos, p.depth - 1⟩, m.task, m.push ++ frames⟩

/-! ## Steps -/

/-- The move in a state, and the frames that it leaves. -/
def move? (S : Stream) (s : State) : Option (Move × List Frame) :=
  match s.task, s.frames with
  | .give x, frame :: frames =>
    some (frame.resume (S.peek s.cursor.pos) S.entries[s.cursor.pos + 1]? x, frames)
  | task, frames => (task.act (S.peek s.cursor.pos)).map fun m => (m, frames)

/-- One **step** of reading. -/
def step (S : Stream) (s : State) : Option State :=
  (move? S s).map fun (m, frames) => m.make S s.cursor frames

/-- The state in which reading starts. -/
def start : State := ⟨⟨0, 0⟩, .call (.chain .or), []⟩

/-- A phrase of a class that is **read** at a cursor, by itself, with the cursor behind it. -/
def Returns (S : Stream) (cat : Category) (p : Cursor) (c : Condition) (q : Cursor) : Prop :=
  Reaches (step S) ⟨p, .call cat, []⟩ ⟨q, .give c, []⟩

/-- What reading has come to when it stops: behind a condition there has to be an end. -/
def outcome? (S : Stream) (s : State) : Option (Except Fault Condition) :=
  match s.task, s.frames with
  | .give c, [] =>
    let now := S.peek s.cursor.pos
    some (if now.isEnding then .ok c
      else .error (.placed (.trailingInput now.found) now.offset))
  | .fail fault, _ => some (.error fault)
  | _, _ => none

variable {S : Stream} {s t u : State}

theorem step_eq_some : step S s = some t ↔
    ∃ m frames, move? S s = some (m, frames) ∧ m.make S s.cursor frames = t := by
  simp only [step, Option.map_eq_some_iff, Prod.exists]

/-- A move resumes the first frame, or it is for the task at hand and leaves all frames. -/
theorem move?_eq_some {m : Move} {frames : List Frame} : move? S s = some (m, frames) ↔
    (∃ x frame, s.task = .give x ∧ s.frames = frame :: frames ∧
      m = frame.resume (S.peek s.cursor.pos) S.entries[s.cursor.pos + 1]? x) ∨
    s.task.act (S.peek s.cursor.pos) = some m ∧ s.frames = frames := by
  obtain ⟨p, task, waiting⟩ := s
  cases task with
  | give x =>
      cases waiting with
      | nil => simp [move?, Task.act]
      | cons frame waiting => simp [move?, Task.act, and_comm, eq_comm]
  | _ => simp [move?]

/-- Reading stops at a fault, and with a phrase that nothing waits for. -/
theorem step_eq_none : step S s = none ↔
    (∃ fault, s.task = .fail fault) ∨ ∃ c, s.task = .give c ∧ s.frames = [] := by
  obtain ⟨p, task, frames⟩ := s
  rw [step, Option.map_eq_none_iff]
  cases task with
  | give c => cases frames <;> simp [move?, Task.act]
  | call cat => cases cat <;> simp [move?, Task.act]
  | _ => simp [move?, Task.act]

theorem step_given (q : Cursor) (c : Condition) : step S ⟨q, .give c, []⟩ = none :=
  step_eq_none.mpr (.inr ⟨c, rfl, rfl⟩)

theorem step_failed (p : Cursor) (fault : Fault) (frames : List Frame) :
    step S ⟨p, .fail fault, frames⟩ = none := step_eq_none.mpr (.inl ⟨fault, rfl⟩)

/-! ## Cursors stay within bounds -/

namespace Stream

theorem peek_firstEnd (S : Stream) : (S.peek S.firstEnd).isEnding = true := by
  have hlt : S.firstEnd < S.entries.length := by
    refine List.findIdx_lt_length_of_exists ⟨.ending S.textEnd, ?_, rfl⟩
    simp [entries]
  rw [peek, List.getD_eq_getElem?_getD, List.getElem?_eq_getElem hlt]
  exact List.findIdx_getElem

theorem next_of_ending {pos : Nat} (h : (S.peek pos).isEnding = true) : S.next pos = pos :=
  if_pos h

theorem next_of_not_ending {pos : Nat} (h : (S.peek pos).isEnding = false) :
    S.next pos = pos + 1 := by
  rw [next, h, if_neg Bool.false_ne_true]

theorem next_le_firstEnd {pos : Nat} (h : pos ≤ S.firstEnd) : S.next pos ≤ S.firstEnd := by
  cases hend : (S.peek pos).isEnding with
  | true => rwa [next_of_ending hend]
  | false =>
      have hne : pos ≠ S.firstEnd := by
        rintro rfl
        simp [S.peek_firstEnd] at hend
      rw [next_of_not_ending hend]
      omega

end Stream

/-- A state is **within bounds**: its cursor is not behind the first end, and no level is open
beyond the limit. -/
structure IsWithin (S : Stream) (s : State) : Prop where
  pos : s.cursor.pos ≤ S.firstEnd
  depth : s.cursor.depth ≤ nestingLimit

theorem isWithin_start (S : Stream) : IsWithin S start := ⟨Nat.zero_le _, Nat.zero_le _⟩

/-- What a move does to the cursor is up to its motion alone. -/
theorem isWithin_make {m : Move} {frames : List Frame} (h : IsWithin S s) :
    IsWithin S (m.make S s.cursor frames) := by
  obtain ⟨hpos, hdepth⟩ := h
  obtain ⟨motion, task, push⟩ := m
  cases motion with
  | stay => exact ⟨hpos, hdepth⟩
  | next => exact ⟨Stream.next_le_firstEnd hpos, hdepth⟩
  | enter offset =>
      by_cases hopen : s.cursor.depth < nestingLimit
      · simp only [Move.make, if_pos hopen]
        exact ⟨hpos, hopen⟩
      · simp only [Move.make, if_neg hopen]
        exact ⟨hpos, hdepth⟩
  | leave => exact ⟨hpos, (Nat.sub_le _ _).trans hdepth⟩

theorem step_isWithin (h : IsWithin S s) (hstep : step S s = some t) : IsWithin S t := by
  obtain ⟨m, frames, -, rfl⟩ := step_eq_some.mp hstep
  exact isWithin_make h

/-- **Bounds hold throughout.** -/
theorem reaches_isWithin (h : IsWithin S s) (hrun : Reaches (step S) s t) : IsWithin S t := by
  induction hrun with
  | refl => exact h
  | tail _ hstep ih => exact step_isWithin ih hstep

/-! ## Phrases that others wait for -/

/-- A state with more frames below its own. -/
def State.above (s : State) (below : List Frame) : State :=
  ⟨s.cursor, s.task, s.frames ++ below⟩

theorem move?_above {m : Move} {frames : List Frame} (h : move? S s = some (m, frames))
    (below : List Frame) : move? S (s.above below) = some (m, frames ++ below) := by
  obtain ⟨x, frame, htask, hframes, hm⟩ | ⟨hact, rfl⟩ := move?_eq_some.mp h
  · refine move?_eq_some.mpr (.inl ⟨x, frame, htask, ?_, hm⟩)
    rw [State.above, hframes, List.cons_append]
  · exact move?_eq_some.mpr (.inr ⟨hact, rfl⟩)

theorem make_above (m : Move) (p : Cursor) (frames below : List Frame) :
    m.make S p (frames ++ below) = (m.make S p frames).above below := by
  obtain ⟨motion, task, push⟩ := m
  cases motion with
  | enter offset =>
      by_cases hopen : p.depth < nestingLimit
      · simp only [Move.make, if_pos hopen, State.above, List.append_assoc]
      · simp only [Move.make, if_neg hopen, State.above]
  | _ => simp only [Move.make, State.above, List.append_assoc]

/-- A step does the same above any frames. -/
theorem step_above (h : step S s = some t) (below : List Frame) :
    step S (s.above below) = some (t.above below) := by
  obtain ⟨m, frames, hmove, rfl⟩ := step_eq_some.mp h
  exact step_eq_some.mpr ⟨m, frames ++ below, move?_above hmove below, make_above ..⟩

theorem reaches_above (h : Reaches (step S) s t) (below : List Frame) :
    Reaches (step S) (s.above below) (t.above below) := by
  induction h with
  | refl => exact .refl
  | tail _ hstep ih => exact ih.tail (step_above hstep below)

/-- **A phrase is read as if nothing waited for it.** Above the frames that wait, reading goes
through the states of reading the phrase by itself, until the phrase is handed over to them. -/
theorem within_or_returned {cat : Category} {p : Cursor} {below : List Frame}
    (h : Reaches (step S) ⟨p, .call cat, below⟩ t) :
    (∃ s, Reaches (step S) ⟨p, .call cat, []⟩ s ∧ t = s.above below) ∨
      ∃ c q, Returns S cat p c q ∧ Reaches (step S) ⟨q, .give c, below⟩ t := by
  induction h with
  | refl => exact .inl ⟨⟨p, .call cat, []⟩, .refl, rfl⟩
  | tail _ hstep ih =>
      obtain ⟨s, hs, rfl⟩ | ⟨c, q, hreturns, hrun⟩ := ih
      · cases halone : step S s with
        | some v =>
            refine .inl ⟨v, hs.tail halone, ?_⟩
            exact Option.some.inj (hstep.symm.trans (step_above halone below))
        -- by itself the phrase is complete, so this step hands it over
        | none =>
            obtain ⟨q, task, frames⟩ := s
            obtain ⟨fault, rfl⟩ | ⟨c, rfl, rfl⟩ := step_eq_none.mp halone
            · cases (step_failed q fault (frames ++ below)).symm.trans hstep
            · exact .inr ⟨c, q, hs, .single hstep⟩
      · exact .inr ⟨c, q, hreturns, hrun.tail hstep⟩

/-- A phrase that is read by itself is read above any frames. -/
theorem Returns.above {cat : Category} {p q : Cursor} {c : Condition}
    (h : Returns S cat p c q) (below : List Frame) :
    Reaches (step S) ⟨p, .call cat, below⟩ ⟨q, .give c, below⟩ := reaches_above h below

/-! ## One outcome -/

/-- Reading that stops stops in one way. -/
theorem eq_of_stopped (hs : Reaches (step S) u s) (ht : Reaches (step S) u t)
    (hstop : step S s = none) (hstop' : step S t = none) : s = t := by
  have hall : s ∈ StateTransition.eval (step S) u := StateTransition.mem_eval.mpr ⟨hs, hstop⟩
  exact Part.mem_unique hall (StateTransition.mem_eval.mpr ⟨ht, hstop'⟩)

/-- At a cursor at most one phrase of a class is read. -/
theorem Returns.unique {cat : Category} {p q q' : Cursor} {c c' : Condition}
    (h : Returns S cat p c q) (h' : Returns S cat p c' q') : c' = c ∧ q' = q := by
  cases eq_of_stopped h h' (step_given q c) (step_given q' c')
  exact ⟨rfl, rfl⟩

end Tabular.Condition.Machine
