import Tabular.Proofs.Condition.Simulation

set_option autoImplicit false

/-! # What reading a phrase depends on

A phrase that is read takes one entry at least and closes every level it opens. Which phrase it is
depends on nothing but the entries it takes and the one behind them: at another cursor, in another
stream with the same entries there, and with no more levels open, the same is read
(`Returns.elsewhere`).

The entries are counted from the cursor where the phrase begins, and the levels from those open
there (`placed`). The levels in between are the ones that frames wait on (`opens`), because a move
opens or closes a level exactly when it adds or takes such a frame (`Move.Keeps`). A step depends on
the entries up to the cursor that it leaves, since it looks at the entry behind the cursor only when
it moves there.
-/

namespace Tabular.Condition.Machine

open StateTransition (Reaches)

variable {S S' : Stream}

/-! ## Open levels -/

/-- Whether a frame waits for the phrase on a level. -/
def Frame.isInside : Frame → Bool
  | inside _ => true
  | chain _ _ | first | more _ => false

/-- How many levels are open for the frames that wait. -/
def opens (frames : List Frame) : Nat := frames.countP Frame.isInside

theorem opens_append (frames below : List Frame) :
    opens (frames ++ below) = opens frames + opens below := List.countP_append

namespace Motion

/-- The number of entries that a motion takes, unless it stops at an end. -/
def taken : Motion → Nat
  | next => 1
  | stay | enter _ | leave => 0

/-- The number of levels that a motion opens. -/
def opened : Motion → Nat
  | enter _ => 1
  | stay | next | leave => 0

/-- The number of levels that a motion closes. -/
def closed : Motion → Nat
  | leave => 1
  | stay | next | enter _ => 0

end Motion

/-- A move **keeps** account, when it takes some frames at an entry: a level is open for each frame
that waits on one, and no end is taken without a fault. -/
structure Move.Keeps (m : Move) (now : Entry) (taken : List Frame) : Prop where
  levels : opens m.push + m.motion.closed = opens taken + m.motion.opened
  ending : m.motion = .next → now.isEnding = true → ∃ fault, m.task = .fail fault

section

variable {now : Entry} {task : Task} {push taken : List Frame}

theorem keeps_stay (h : opens push = opens taken) : Move.Keeps ⟨.stay, task, push⟩ now taken := by
  refine ⟨h, fun hnext => ?_⟩
  cases hnext

/-- A level is closed for the frame that waits on it. -/
theorem keeps_leave {l : Level} : Move.Keeps ⟨.leave, task, []⟩ now [.inside l] := by
  refine ⟨rfl, fun hnext => ?_⟩
  cases hnext

/-- A level is opened for a frame that waits on it. -/
theorem keeps_enter {l : Level} {offset : Nat} :
    Move.Keeps ⟨.enter offset, task, [.inside l]⟩ now [] := by
  refine ⟨rfl, fun hnext => ?_⟩
  cases hnext

theorem keeps_next (h : opens push = opens taken)
    (hending : now.isEnding = true → ∃ fault, task = .fail fault) :
    Move.Keeps ⟨.next, task, push⟩ now taken :=
  ⟨h, fun _ => hending⟩

/-- A token may be taken. -/
theorem keeps_token {t : Token} (h : opens push = opens taken) :
    Move.Keeps ⟨.next, task, push⟩ (.token t) taken := by
  refine keeps_next h fun hending => ?_
  cases hending

/-- An entry that spells a keyword is no end. -/
theorem Entry.isEnding_of_keyword? {k : Keyword} (h : now.keyword? = some k) :
    now.isEnding = false := by
  cases now with
  | token t => rfl
  | operator | ending => cases h

/-- A keyword may be taken. -/
theorem keeps_keyword {k : Keyword} (hnow : now.keyword? = some k) (h : opens push = opens taken) :
    Move.Keeps ⟨.next, task, push⟩ now taken := by
  refine keeps_next h fun hending => ?_
  rw [Entry.isEnding_of_keyword? hnow] at hending
  cases hending

end

theorem Entry.keeps_question (now : Entry) (a : Condition) :
    (now.question a).Keeps now [.first] := by
  cases now with
  | token t =>
      simp only [question]
      split
      · exact keeps_token rfl
      · exact keeps_token rfl
      · exact keeps_stay rfl
  | operator | ending => exact keeps_stay rfl

theorem Entry.keeps_asked (now : Entry) (ahead : Option Entry) (a : Condition) :
    (now.asked ahead a).Keeps now [.first] := by
  unfold asked
  split
  · exact keeps_stay rfl
  · exact keeps_stay rfl
  · exact keeps_stay rfl
  · rename_i hnot
    split
    · exact keeps_keyword hnot rfl
    · exact keeps_keyword hnot rfl
  · exact now.keeps_question a

/-- **What is done for a task keeps account.** -/
theorem Task.keeps_act {task : Task} {now : Entry} {m : Move} (h : task.act now = some m) :
    m.Keeps now [] := by
  have hfault : ∀ next : Entry → Task, (∀ offset, ∃ fault, next (.ending offset) = .fail fault) →
      now.isEnding = true → ∃ fault, next now = .fail fault := by
    intro next hnext hending
    cases now with
    | ending offset => exact hnext offset
    | token | operator => cases hending
  cases task with
  | call cat =>
      cases cat with
      | chain c =>
          cases h
          exact keeps_stay rfl
      | negation =>
          cases h
          split
          · rename_i hnot
            exact keeps_keyword hnot rfl
          · exact keeps_stay rfl
      | comparison =>
          cases h
          exact keeps_stay rfl
      | operand =>
          cases h
          exact keeps_next rfl (hfault Entry.operand fun _ => ⟨_, rfl⟩)
  | enter l offset =>
      cases h
      exact keeps_enter
  | close c =>
      cases h
      exact keeps_next rfl (hfault (Entry.closing · c) fun _ => ⟨_, rfl⟩)
  | name opened sofar =>
      cases h
      exact keeps_next rfl (hfault (Entry.namePart · opened sofar) fun _ => ⟨_, rfl⟩)
  | expect k w =>
      cases h
      split
      · rename_i hk
        exact keeps_keyword hk rfl
      · exact keeps_stay rfl
  | wildcard negated value =>
      cases h
      split
      · rename_i hilike
        exact keeps_keyword hilike rfl
      · exact keeps_stay rfl
  | give | fail => cases h

/-- **What a frame does with a phrase keeps account.** -/
theorem Frame.keeps_resume (frame : Frame) (now : Entry) (ahead : Option Entry) (x : Condition) :
    (frame.resume now ahead x).Keeps now [frame] := by
  cases frame with
  | chain c earlier =>
      simp only [resume]
      split
      · rename_i hword
        exact keeps_keyword hword rfl
      · exact keeps_stay rfl
  | inside l => cases l <;> exact keeps_leave
  | first => exact now.keeps_asked ahead x
  | more w => exact keeps_stay rfl

/-- A frame looks at the entry behind the cursor only to move there. -/
theorem Frame.resume_ahead (frame : Frame) (now : Entry) (ahead : Option Entry) (x : Condition) :
    (frame.resume now ahead x).motion = .next ∨
      ∀ ahead' : Option Entry, frame.resume now ahead' x = frame.resume now ahead x := by
  cases frame with
  | first =>
      by_cases hnot : now.keyword? = some .not
      · left
        simp only [resume, Entry.asked, hnot]
        split <;> rfl
      · right
        intro ahead'
        simp only [resume, Entry.asked]
        cases hword : now.keyword? with
        | none => rfl
        | some k =>
            cases k with
            | not => exact absurd hword hnot
            | _ => rfl
  | inside l => cases l <;> exact .inr fun _ => rfl
  | chain | more => exact .inr fun _ => rfl

/-- To read a phrase, a phrase is read at the same place, or an entry is taken. -/
theorem Task.act_call {cat : Category} {now : Entry} {m : Move}
    (h : (Task.call cat).act now = some m) : (∃ cat, m.task = .call cat) ∨ m.motion = .next := by
  cases cat with
  | chain c =>
      cases h
      exact .inl ⟨_, rfl⟩
  | negation =>
      cases h
      split
      · exact .inr rfl
      · exact .inl ⟨_, rfl⟩
  | comparison =>
      cases h
      exact .inl ⟨_, rfl⟩
  | operand =>
      cases h
      exact .inr rfl

/-! ## Places counted from where a phrase begins -/

/-- The state of reading a phrase that begins at a cursor, when `i` entries have been taken. -/
def placed (p : Cursor) (i : Nat) (task : Task) (frames : List Frame) : State :=
  ⟨⟨p.pos + i, p.depth + opens frames⟩, task, frames⟩

/-- Two streams have the **same entries** from two places on, for the first `n` entries and the one
behind them. -/
def SameEntries (S : Stream) (pos : Nat) (S' : Stream) (pos' n : Nat) : Prop :=
  ∀ j ≤ n, ∃ e, S.entries[pos + j]? = some e ∧ S'.entries[pos' + j]? = some e

namespace SameEntries

variable {pos pos' n j : Nat}

theorem mono (h : SameEntries S pos S' pos' n) (hj : j ≤ n) : SameEntries S pos S' pos' j :=
  fun i hi => h i (hi.trans hj)

theorem getElem?_eq (h : SameEntries S pos S' pos' n) (hj : j ≤ n) :
    S'.entries[pos' + j]? = S.entries[pos + j]? := by
  obtain ⟨e, he, he'⟩ := h j hj
  rw [he, he']

theorem peek_eq (h : SameEntries S pos S' pos' n) (hj : j ≤ n) :
    S'.peek (pos' + j) = S.peek (pos + j) := by
  obtain ⟨e, he, he'⟩ := h j hj
  simp only [Stream.peek, List.getD_eq_getElem?_getD, he, he', Option.getD_some]

end SameEntries

/-- A move that ends in no fault does the same wherever the entry at the cursor is the same, with no
more levels open. -/
theorem make_placed {m : Move} {now : Entry} {taken frames : List Frame} {p p' : Cursor} {i : Nat}
    (hkeeps : m.Keeps now taken) (hdepth : p'.depth ≤ p.depth)
    (hnow : S'.peek (p'.pos + i) = now)
    (hok : ∀ fault,
      (m.make S ⟨p.pos + i, p.depth + opens (taken ++ frames)⟩ frames).task ≠ .fail fault) :
    m.make S' ⟨p'.pos + i, p'.depth + opens (taken ++ frames)⟩ frames =
      placed p' (i + m.motion.taken) m.task (m.push ++ frames) := by
  obtain ⟨hlevels, hending⟩ := hkeeps
  obtain ⟨motion, task, push⟩ := m
  simp only [opens_append] at hlevels hok ⊢
  cases motion with
  | stay =>
      simp only [Motion.opened, Motion.closed] at hlevels
      simp only [Move.make, placed, Motion.taken, opens_append]
      congr 2
      omega
  | next =>
      simp only [Motion.opened, Motion.closed] at hlevels
      -- at an end the move would come to a fault
      have hgoes : now.isEnding = false := by
        by_contra hstays
        obtain ⟨fault, hfault⟩ := hending rfl (by simpa using hstays)
        exact hok fault hfault
      simp only [Move.make, placed, Motion.taken, opens_append]
      rw [Stream.next_of_not_ending (hnow ▸ hgoes)]
      congr 2
      omega
  | enter offset =>
      simp only [Motion.opened, Motion.closed] at hlevels
      -- what may be opened from the one cursor may be opened from the other, which is no deeper
      by_cases hopen : p.depth + (opens taken + opens frames) < nestingLimit
      · have hopen' : p'.depth + (opens taken + opens frames) < nestingLimit := by omega
        simp only [Move.make, placed, Motion.taken, opens_append, if_pos hopen']
        congr 2
        omega
      · simp only [Move.make, if_neg hopen] at hok
        exact absurd rfl (hok _)
  | leave =>
      simp only [Motion.opened, Motion.closed] at hlevels
      simp only [Move.make, placed, Motion.taken, opens_append]
      congr 2
      omega

/-! ## A phrase is read the same way elsewhere -/

section

variable {p p' : Cursor} {i : Nat} {task : Task} {frames left : List Frame} {m : Move}

theorem move?_keeps (h : move? S (placed p i task frames) = some (m, left)) :
    ∃ taken, frames = taken ++ left ∧ m.Keeps (S.peek (p.pos + i)) taken := by
  obtain ⟨x, frame, -, hframes, rfl⟩ | ⟨hact, hframes⟩ := move?_eq_some.mp h
  · exact ⟨[frame], hframes, frame.keeps_resume ..⟩
  · exact ⟨[], hframes, Task.keeps_act hact⟩

/-- A move depends on the entries up to the place it goes to. -/
theorem move?_elsewhere (h : move? S (placed p i task frames) = some (m, left))
    (hsame : SameEntries S p.pos S' p'.pos (i + m.motion.taken)) :
    move? S' (placed p' i task frames) = some (m, left) := by
  have hnow : S'.peek (p'.pos + i) = S.peek (p.pos + i) := hsame.peek_eq (Nat.le_add_right _ _)
  obtain ⟨x, frame, htask, hframes, rfl⟩ | ⟨hact, hframes⟩ := move?_eq_some.mp h
  · refine move?_eq_some.mpr (.inl ⟨x, frame, htask, hframes, ?_⟩)
    show _ = frame.resume (S'.peek (p'.pos + i)) _ x
    rw [hnow]
    rcases frame.resume_ahead (S.peek (p.pos + i)) S.entries[p.pos + i + 1]? x with hnext | hfree
    -- the entry behind the cursor is the one that the cursor moves to
    · have hahead : S'.entries[p'.pos + (i + 1)]? = S.entries[p.pos + (i + 1)]? := by
        refine hsame.getElem?_eq ?_
        simp only [placed, hnext, Motion.taken, le_refl]
      exact congrArg (frame.resume _ · x) hahead.symm
    · exact (hfree _).symm
  · refine move?_eq_some.mpr (.inr ⟨?_, hframes⟩)
    show task.act (S'.peek (p'.pos + i)) = some m
    rw [hnow]
    exact hact

/-- A **step** that ends in no fault goes on from a place to one no further back, and further on
when it begins to take entries. It does the same elsewhere, as far as the entries are the same. -/
theorem step_placed {t : State} (hstep : step S (placed p i task frames) = some t)
    (hok : ∀ fault, t.task ≠ .fail fault) :
    ∃ j next waiting, t = placed p j next waiting ∧ i ≤ j ∧
      ((∃ cat, task = .call cat) → i < j ∨ ∃ cat, next = .call cat) ∧
      ∀ (S' : Stream) (p' : Cursor), p'.depth ≤ p.depth → SameEntries S p.pos S' p'.pos j →
        step S' (placed p' i task frames) = some (placed p' j next waiting) := by
  obtain ⟨m, left, hmove, rfl⟩ := step_eq_some.mp hstep
  obtain ⟨taken, rfl, hkeeps⟩ := move?_keeps hmove
  refine ⟨i + m.motion.taken, m.task, m.push ++ left, make_placed hkeeps le_rfl rfl hok,
    Nat.le_add_right _ _, ?_, ?_⟩
  · rintro ⟨cat, rfl⟩
    obtain ⟨x, frame, htask, -⟩ | ⟨hact, -⟩ := move?_eq_some.mp hmove
    · cases htask
    · rcases Task.act_call hact with hcall | hnext
      · exact .inr hcall
      · refine .inl ?_
        rw [hnext]
        exact Nat.lt_succ_self i
  · intro S' p' hdepth hsame
    have hnow : S'.peek (p'.pos + i) = S.peek (p.pos + i) := hsame.peek_eq (Nat.le_add_right _ _)
    exact step_eq_some.mpr
      ⟨m, left, move?_elsewhere hmove hsame, make_placed hkeeps hdepth hnow hok⟩

end

/-- Whatever is **reached** in reading a phrase, before a fault, is reached by the same steps
elsewhere, as far as the entries are the same; and either a phrase is still to be begun, or an entry
has been taken. -/
theorem reaches_placed {cat : Category} {p : Cursor} {t : State}
    (hrun : Reaches (step S) ⟨p, .call cat, []⟩ t) (hok : ∀ fault, t.task ≠ .fail fault) :
    ∃ i task frames, t = placed p i task frames ∧ (0 < i ∨ ∃ cat, task = .call cat) ∧
      ∀ (S' : Stream) (p' : Cursor), p'.depth ≤ p.depth → SameEntries S p.pos S' p'.pos i →
        Reaches (step S') ⟨p', .call cat, []⟩ (placed p' i task frames) := by
  induction hrun with
  | refl => exact ⟨0, .call cat, [], rfl, .inr ⟨cat, rfl⟩, fun _ _ _ _ => .refl⟩
  | tail _ hstep ih =>
      -- the state before has no fault, since reading goes on there
      obtain ⟨i, task, frames, rfl, hpos, hsame⟩ := ih fun fault hfault => by
        rw [Option.mem_def, step_eq_none.mpr (.inl ⟨fault, hfault⟩)] at hstep
        cases hstep
      obtain ⟨j, next, waiting, rfl, hle, hcall, helsewhere⟩ := step_placed hstep hok
      refine ⟨j, next, waiting, rfl, ?_, ?_⟩
      · rcases hpos with hpos | htask
        · exact .inl (hpos.trans_le hle)
        · rcases hcall htask with hlt | hnext
          · exact .inl (by omega)
          · exact .inr hnext
      · intro S' p' hdepth hentries
        exact (hsame S' p' hdepth (hentries.mono hle)).tail (helsewhere S' p' hdepth hentries)

/-- **A phrase depends on its own entries and the one behind them.** It takes one at least and
leaves the levels as they are, and from any cursor with the same entries and no more open levels the
same is read. -/
theorem Returns.elsewhere {cat : Category} {p q : Cursor} {c : Condition}
    (h : Returns S cat p c q) : p.pos < q.pos ∧ q.depth = p.depth ∧
      ∀ (S' : Stream) (p' : Cursor), p'.depth ≤ p.depth →
        SameEntries S p.pos S' p'.pos (q.pos - p.pos) →
        Returns S' cat p' c ⟨p'.pos + (q.pos - p.pos), p'.depth⟩ := by
  obtain ⟨i, task, frames, heq, hpos, helsewhere⟩ := reaches_placed h nofun
  obtain ⟨rfl, rfl, rfl⟩ :
      q = ⟨p.pos + i, p.depth + opens frames⟩ ∧ task = .give c ∧ frames = [] := by
    simpa [placed, eq_comm] using heq
  have htaken : 0 < i := by
    rcases hpos with hpos | ⟨cat, hcall⟩
    · exact hpos
    · cases hcall
  refine ⟨Nat.lt_add_of_pos_right htaken, rfl, fun S' p' hdepth hsame => ?_⟩
  rw [Nat.add_sub_cancel_left] at hsame ⊢
  exact helsewhere S' p' hdepth hsame

/-- The depth of a cursor is the number of levels that frames wait on, so none is closed that was
not opened. -/
theorem depth_eq_opens {s : State} (hrun : Reaches (step S) start s)
    (hok : ∀ fault, s.task ≠ .fail fault) : s.cursor.depth = opens s.frames := by
  obtain ⟨i, task, frames, rfl, -, -⟩ := reaches_placed hrun hok
  exact Nat.zero_add _

/-- **Cursors are disciplined.** In all states of reading any stream, no end has been passed and no
level opened beyond the limit. A disjunction, conjunction, negation, comparison or operand is read
as by itself, whatever waits for it. When it has been read, one entry at least has been taken and as
many levels are open as before; and from any other cursor with no more levels open, in any stream
with the same entries there up to the first that is not taken, just the same condition is read off
as many entries. Over the tokens of a text, phrases are read as their readers take them, and reading
comes to what the text as a whole is read as. -/
theorem cursor_disciplined :
    (∀ (S : Stream) (s : State), Reaches (step S) start s →
      s.cursor.pos ≤ S.firstEnd ∧ s.cursor.depth ≤ nestingLimit) ∧
    (∀ (S : Stream) (cat : Category) (p : Cursor) (below : List Frame) (s : State),
      Reaches (step S) ⟨p, .call cat, below⟩ s →
        (∃ t, Reaches (step S) ⟨p, .call cat, []⟩ t ∧ s = t.above below) ∨
          ∃ c q, Returns S cat p c q ∧ Reaches (step S) ⟨q, .give c, below⟩ s) ∧
    (∀ (S : Stream) (cat : Category) (p q : Cursor) (c : Condition), Returns S cat p c q →
      (∀ below, Reaches (step S) ⟨p, .call cat, below⟩ ⟨q, .give c, below⟩) ∧
        p.pos < q.pos ∧ q.depth = p.depth ∧
        ∀ (S' : Stream) (p' : Cursor), p'.depth ≤ p.depth →
          SameEntries S p.pos S' p'.pos (q.pos - p.pos) →
          ∀ (c' : Condition) (q' : Cursor), Returns S' cat p' c' q' ↔
            c' = c ∧ q' = ⟨p'.pos + (q.pos - p.pos), p'.depth⟩) ∧
    ∀ (tokens : List Token) (textEnd : Nat),
      (∀ (cat : Category) (p q : Cursor) (c : Condition), p.pos ≤ tokens.length →
        p.depth ≤ nestingLimit →
        (Returns (.ofTokens tokens textEnd) cat p c q ↔
          reader textEnd (nestingLimit - p.depth) cat (tokens.drop p.pos) =
              .ok (c, tokens.drop q.pos) ∧
            q.pos ≤ tokens.length ∧ q.depth = p.depth)) ∧
      ∃ s, Reaches (step (.ofTokens tokens textEnd)) start s ∧
        outcome? (.ofTokens tokens textEnd) s = some (ofTokens tokens textEnd) := by
  refine ⟨fun S s hrun => ?_, fun S cat p below s => within_or_returned,
    fun S cat p q c hreturns => ?_, fun tokens textEnd =>
      ⟨fun cat p q c hpos hdepth => ?_, exists_outcome tokens textEnd⟩⟩
  · obtain ⟨hpos, hdepth⟩ := reaches_isWithin (isWithin_start S) hrun
    exact ⟨hpos, hdepth⟩
  · obtain ⟨htaken, hdepth, helsewhere⟩ := hreturns.elsewhere
    refine ⟨hreturns.above, htaken, hdepth, fun S' p' hlevels hsame c' q' => ?_⟩
    have hreturns' : Returns S' cat p' c ⟨p'.pos + (q.pos - p.pos), p'.depth⟩ :=
      helsewhere S' p' hlevels hsame
    constructor
    · exact hreturns'.unique
    · rintro ⟨rfl, rfl⟩
      exact hreturns'
  · exact returns_iff hpos (Nat.add_sub_cancel' hdepth)

/-- The tokens of `A = B`. -/
def askSample : List Token := [⟨.word "A", "A", 0⟩, ⟨.relation .eq, "=", 2⟩, ⟨.word "B", "B", 4⟩]

/-- The same tokens behind an opening parenthesis. -/
def openSample : Stream := ⟨.token ⟨.opening, "(", 0⟩ :: askSample.map .token, 5⟩

theorem cursor_disciplined_askSample :
    Returns (.ofTokens askSample 5) .comparison ⟨0, 9⟩ (.compare .eq (.column "A") (.column "B"))
      ⟨3, 9⟩ ∧
    ∀ (c : Condition) (q : Cursor), Returns openSample .comparison ⟨1, 1⟩ c q ↔
      c = .compare .eq (.column "A") (.column "B") ∧ q = ⟨4, 1⟩ := by
  obtain ⟨-, -, hcalls, htokens⟩ := cursor_disciplined
  obtain ⟨hreaders, -⟩ := htokens askSample 5
  have hreturns : Returns (.ofTokens askSample 5) .comparison ⟨0, 9⟩
      (.compare .eq (.column "A") (.column "B")) ⟨3, 9⟩ :=
    (hreaders .comparison _ _ _ (by decide) (by decide)).mpr ⟨rfl, by decide, rfl⟩
  have hsame : SameEntries (.ofTokens askSample 5) 0 openSample 1 3 := by
    intro j hj
    match j, hj with
    | 0, _ | 1, _ | 2, _ | 3, _ => exact ⟨_, rfl, rfl⟩
  obtain ⟨-, -, -, helsewhere⟩ := hcalls _ _ _ _ _ hreturns
  exact ⟨hreturns, helsewhere openSample ⟨1, 1⟩ (by decide) hsame⟩

end Tabular.Condition.Machine
