import CloudDiagram.Timeline
import Mathlib.Data.List.DropRight
import Mathlib.Data.List.Induction

/-!
# A timeline is two stacks around the current entry

Told without a cursor, a timeline is the current entry between two stacks: the past, whose
newest entry is on top, and the future, whose next entry is on top. Recording puts the current
entry on the past and clears the future, and a limit takes from the bottom of the past. Going
back puts the current entry on the future and takes the top of the past in its place; going
forward does the reverse. A stack that is empty leaves everything as it is.

The list and the cursor of a timeline are the past, the current entry and the future one after
another, and the size of the past. What is done on the list takes differences and looks entries
up, which is checked here step by step: since the cursor is on an entry, no difference is below
zero and no place is outside of the list.
-/

namespace CloudDiagram

section AnswerAll

variable {State Inner Request Answer : Type}

/-- The answers to one request after another, and the state after all of them. What
is asked of timelines and of sessions is told by it, so that a run can be compared
with its answers. -/
def answerAll (respond : State → Request → Answer × State) (state : State) :
    List Request → List Answer × State
  | [] => ([], state)
  | request :: rest =>
    let (answer, next) := respond state request
    let (answers, last) := answerAll respond next rest
    (answer :: answers, last)

/-- What every request keeps is kept by all of them, by induction on the requests.
The answers play no part in it. -/
theorem answerAll_keeps {respond : State → Request → Answer × State} (Holds : State → Prop)
    (keeps : ∀ state request, Holds state → Holds (respond state request).2) {state : State}
    (holds : Holds state) (requests : List Request) :
    Holds (answerAll respond state requests).2 := by
  induction requests generalizing state with
  | nil => exact holds
  | cons request rest inductionHypothesis => exact inductionHypothesis (keeps state request holds)

/-- If a state shows another one, which answers every request alike and leads to
what it shows next, all requests are answered alike. It takes what is known of one
request over to any number of them. -/
theorem answerAll_view {respond : State → Request → Answer × State}
    {inside : Inner → Request → Answer × Inner} {view : Inner → State}
    (step : ∀ state request,
      respond (view state) request = (inside state request).map id view)
    (state : Inner) (requests : List Request) :
    answerAll respond (view state) requests = (answerAll inside state requests).map id view := by
  induction requests generalizing state with
  | nil => rfl
  | cons request rest inductionHypothesis =>
    simp only [answerAll, step, inductionHypothesis, Prod.map, id_eq]

end AnswerAll

variable {α : Type}

namespace Timeline

/-- What may be asked of a timeline. A timeline knows nothing of what its entries
are, so recording one is asked for with the entry itself. -/
inductive Request (α : Type) where
  /-- Record an entry. -/
  | record (entry : α)
  /-- Go back one entry. -/
  | undo
  /-- Go forward one entry. -/
  | redo
deriving DecidableEq

/-- Do what is asked. The answer is the entry that a move led to; one that is not
possible leaves the timeline as it is. Recording always works and has no answer. -/
def respond (timeline : Timeline α) : Request α → Option α × Timeline α
  | .record entry => (none, timeline.record entry)
  | .undo => timeline.undo?.elim (none, timeline) (Prod.map some id)
  | .redo => timeline.redo?.elim (none, timeline) (Prod.map some id)

/-- A number less another one, unless that is below zero. Differences of natural
numbers stop at zero, so one that is out of range is told apart here from one that
is zero. -/
def less? (number other : Nat) : Option Nat :=
  if other ≤ number then some (number - other) else none

/-- Entries without the oldest ones of the given number, unless there are not so
many. To take more entries than there are would be out of range as well. -/
def forget? (count : Nat) (entries : List α) : Option (List α) :=
  if count ≤ entries.length then some (entries.drop count) else none

/-- Entries within a limit, where differences and places are checked. A limit of
zero counts as one, since the current entry is never taken. -/
def newest? (limit : Option Nat) (entries : List α) : Option (List α) :=
  match limit with
  | some limit =>
    if max 1 limit < entries.length then do forget? (← less? entries.length (max 1 limit)) entries
    else some entries
  | none => some entries

/-- Do what is asked, with every difference and place checked; nothing if one is out
of range. A move sets the cursor first and then looks up the entry under it, so the
place that is looked up is the new one. -/
def respond? (timeline : Timeline α) : Request α → Option (Option α × Timeline α)
  | .record entry => do
    let entries ← newest? timeline.limit (timeline.entries.take (timeline.cursor + 1) ++ [entry])
    let cursor ← less? entries.length 1
    return (none, { timeline with entries, cursor })
  | .undo =>
    if timeline.cursor = 0 then some (none, timeline)
    else do
      let cursor ← less? timeline.cursor 1
      return (timeline.entries[cursor]?, { timeline with cursor })
  | .redo =>
    if timeline.entries.length ≤ timeline.cursor + 1 then some (none, timeline)
    else
      let cursor := timeline.cursor + 1
      some (timeline.entries[cursor]?, { timeline with cursor })

/-- A difference that is not below zero is found, and is the usual difference of
numbers. -/
theorem less?_eq_some {number other : Nat} (enough : other ≤ number) :
    less? number other = some (number - other) := if_pos enough

/-- The newest entries within a limit are found: they are only taken where there are
more entries than the limit, so there are enough of them to take some away. -/
theorem newest?_eq_some (limit : Option Nat) (entries : List α) :
    newest? limit entries = some (newest limit entries) := by
  cases limit with
  | none => rfl
  | some limit =>
    by_cases long : max 1 limit < entries.length
    · simp [newest?, newest, forget?, less?_eq_some (Nat.le_of_lt long), long]
    · have all : entries.length - max 1 limit = 0 := Nat.sub_eq_zero_of_le (Nat.le_of_not_lt long)
      simp [newest?, newest, long, all]

/-- On an entry, everything that is asked stays in range. The cursor is moved only
where there is an entry before or after it, and there is an entry after each
recording. -/
theorem respond?_eq_some {timeline : Timeline α} (onEntry : timeline.OnEntry)
    (request : Request α) : timeline.respond? request = some (timeline.respond request) := by
  cases request with
  | record entry =>
    have positive : 1 ≤ (newest timeline.limit
        (timeline.entries.take (timeline.cursor + 1) ++ [entry])).length :=
      List.length_pos_iff.mpr (newest_ne_nil (by simp))
    simp [respond?, respond, record, newest?_eq_some, less?_eq_some positive]
  | undo =>
    by_cases first : timeline.cursor = 0
    · simp [respond?, respond, undo?, canUndo, first]
    · have before : 1 ≤ timeline.cursor := Nat.one_le_iff_ne_zero.mpr first
      have inside : timeline.cursor - 1 < timeline.entries.length :=
        Nat.lt_of_le_of_lt (Nat.sub_le ..) onEntry
      have possible : 0 < timeline.cursor := before
      simp [respond?, respond, undo?, canUndo, first, less?_eq_some before, inside, possible]
  | redo =>
    by_cases last : timeline.entries.length ≤ timeline.cursor + 1
    · simp [respond?, respond, redo?, canRedo, last, Nat.not_lt_of_le last]
    · have inside : timeline.cursor + 1 < timeline.entries.length := Nat.lt_of_not_le last
      simp [respond?, respond, redo?, canRedo, last, inside]

end Timeline

/-- The current entry between the past, oldest first, and the future, next first.
The top of the past is its last entry, and the top of the future is its first one.
-/
structure Stacks (α : Type) where
  past : List α
  current : α
  future : List α
deriving DecidableEq

namespace Stacks

/-- The newest entries of a past that a limit leaves beside the current entry. The
current entry takes one place of the limit itself, and a limit of zero counts as
one. -/
def kept (limit : Option Nat) (past : List α) : List α :=
  limit.elim past fun most => past.rtake (max 1 most - 1)

/-- Record an entry: the current one goes on the past, the new one takes its place,
and there is no future any more. -/
def record (limit : Option Nat) (parts : Stacks α) (entry : α) : Stacks α :=
  ⟨kept limit (parts.past ++ [parts.current]), entry, []⟩

/-- The top of the past, and the stacks with it as the current entry; nothing if the
past is empty. The entry that was current is the top of the future. -/
def undo? (parts : Stacks α) : Option (α × Stacks α) :=
  parts.past.getLast?.map fun previous =>
    (previous, ⟨parts.past.dropLast, previous, parts.current :: parts.future⟩)

/-- The top of the future, and the stacks with it as the current entry; nothing if
the future is empty. The entry that was current is the top of the past. -/
def redo? (parts : Stacks α) : Option (α × Stacks α) :=
  parts.future.head?.map fun next =>
    (next, ⟨parts.past ++ [parts.current], next, parts.future.tail⟩)

/-- Do what is asked, with the same answers as a timeline gives. A move that is not
possible leaves the stacks as they are. -/
def respond (limit : Option Nat) (parts : Stacks α) :
    Timeline.Request α → Option α × Stacks α
  | .record entry => (none, parts.record limit entry)
  | .undo => parts.undo?.elim (none, parts) (Prod.map some id)
  | .redo => parts.redo?.elim (none, parts) (Prod.map some id)

/-- All entries, oldest first: the past, the current entry and the future. They are
the list that a timeline has. -/
def entries (parts : Stacks α) : List α := parts.past ++ parts.current :: parts.future

/-- The stacks as a list with a cursor. The cursor is the size of the past, since
that many entries stand before the current one. -/
def timeline (limit : Option Nat) (parts : Stacks α) : Timeline α :=
  ⟨parts.entries, parts.past.length, limit⟩

/-- Nothing can be undone exactly if the past is empty. A move back needs a top of
the past. -/
theorem undo?_eq_none_iff {parts : Stacks α} : parts.undo? = none ↔ parts.past = [] := by
  simp [undo?]

/-- Nothing can be redone exactly if the future is empty. A move forward needs a top
of the future. -/
theorem redo?_eq_none_iff {parts : Stacks α} : parts.redo? = none ↔ parts.future = [] := by
  simp [redo?]

/-- The cursor is on the current entry, so it is on an entry of the list, whatever
the stacks are. -/
theorem timeline_onEntry (limit : Option Nat) (parts : Stacks α) :
    (parts.timeline limit).OnEntry := by
  simp [Timeline.OnEntry, timeline, entries]

/-- The entries within a limit are what it leaves of the past, and the current one.
The list counts the current entry among those that it keeps, and the stacks do not,
which is why the two take different numbers of entries away. -/
theorem newest_append (limit : Option Nat) (past : List α) (entry : α) :
    Timeline.newest limit (past ++ [entry]) = kept limit past ++ [entry] := by
  cases limit with
  | none => rfl
  | some most =>
    have concat := List.rtake_concat_succ past (max 1 most - 1) entry
    rw [Nat.sub_add_cancel (Nat.le_max_left 1 most)] at concat
    exact concat

/-- Recording on the list is recording on the stacks. What the list drops behind the
cursor is the future, and what it drops at the start is the bottom of the past. -/
theorem record_timeline (limit : Option Nat) (parts : Stacks α) (entry : α) :
    (parts.timeline limit).record entry = (parts.record limit entry).timeline limit := by
  have reached : (parts.timeline limit).entries.take ((parts.timeline limit).cursor + 1) =
      parts.past ++ [parts.current] := by
    rw [timeline, entries, List.append_cons]
    exact List.take_left' (by simp)
  rw [Timeline.record, reached, timeline, newest_append]
  simp [record, timeline, entries]

/-- Going back on the list is going back on the stacks. The entry before the cursor
is the top of the past, and the cursor is not at the start if there is one. -/
theorem undo?_timeline (limit : Option Nat) (parts : Stacks α) :
    (parts.timeline limit).undo? = parts.undo?.map (Prod.map id (timeline limit)) := by
  obtain ⟨past, current, future⟩ := parts
  cases past using List.reverseRecOn with
  | nil => rfl
  | append_singleton older previous =>
    simp [Timeline.undo?, Timeline.canUndo, timeline, entries, undo?]

/-- Going forward on the list is going forward on the stacks. The entry behind the
cursor is the top of the future, and the cursor is not at the end if there is one.
-/
theorem redo?_timeline (limit : Option Nat) (parts : Stacks α) :
    (parts.timeline limit).redo? = parts.redo?.map (Prod.map id (timeline limit)) := by
  obtain ⟨past, current, future⟩ := parts
  cases future with
  | nil => simp [Timeline.redo?, Timeline.canRedo, timeline, entries, redo?]
  | cons next later => simp [Timeline.redo?, Timeline.canRedo, timeline, entries, redo?]

/-- The list answers as the stacks do, and shows the stacks afterwards. This is the
step from which all runs of the two are compared. -/
theorem respond_timeline (limit : Option Nat) (parts : Stacks α)
    (request : Timeline.Request α) :
    (parts.timeline limit).respond request =
      (parts.respond limit request).map id (timeline limit) := by
  cases request with
  | record entry => exact congrArg (none, ·) (record_timeline limit parts entry)
  | undo =>
    rw [Timeline.respond, undo?_timeline, respond]
    cases parts.undo? <;> rfl
  | redo =>
    rw [Timeline.respond, redo?_timeline, respond]
    cases parts.redo? <;> rfl

/-- All entries are within the limit, where the smallest limit is one. Without a
limit nothing is asked. -/
def Within (limit : Option Nat) (parts : Stacks α) : Prop :=
  ∀ most ∈ limit, parts.entries.length ≤ max 1 most

/-- Everything that is asked leaves the entries within the limit: a recorded entry
has its place beside what is kept of the past, and a move only takes from one stack
what it puts on the other. -/
theorem Within.respond {limit : Option Nat} {parts : Stacks α} (within : parts.Within limit)
    (request : Timeline.Request α) : (parts.respond limit request).2.Within limit := by
  obtain ⟨past, current, future⟩ := parts
  cases request with
  | record entry =>
    rintro most ⟨⟩
    have positive : 1 ≤ max 1 most := Nat.le_max_left 1 most
    simp only [Stacks.respond, record, kept, Option.elim_some, List.rtake, entries,
      List.length_append, List.length_drop, List.length_cons, List.length_nil]
    omega
  | undo =>
    cases past using List.reverseRecOn with
    | nil => exact within
    | append_singleton older previous =>
      have moved : (Stacks.respond limit ⟨older ++ [previous], current, future⟩ .undo).2 =
          ⟨older, previous, current :: future⟩ := by
        simp [Stacks.respond, undo?]
      rw [moved]
      simpa [Within, entries] using within
  | redo =>
    cases future with
    | nil => exact within
    | cons next later => simpa [Within, Stacks.respond, redo?, entries] using within

end Stacks

namespace Timeline

/-- Ask of a new timeline whatever you like, in any order, under any limit or none.
The entries are the past, the current entry and the future of the two stacks that
were asked the same, the cursor is on the current entry, and the answers are those
of the stacks. A move is impossible exactly if its stack is empty. There is always
an entry, there are never more than the limit allows, where the smallest one allows
one, and the cursor is on one of them. Whatever is asked next, no difference falls
below zero and no place is outside of the entries, and a move without an answer has
left the cursor where it was.

Proof: the list shows the stacks after every request, and the stacks stay within the
limit. Everything about the cursor and the ends of the list is read off the stacks.
-/
theorem is_two_stacks (first : α) (limit : Option Nat) (requests : List (Request α)) :
    let asked := answerAll respond (start first limit) requests
    let told := answerAll (Stacks.respond limit) ⟨[], first, []⟩ requests
    let timeline := asked.2
    let parts := told.2
    asked.1 = told.1 ∧
      timeline = ⟨parts.past ++ parts.current :: parts.future, parts.past.length, limit⟩ ∧
      (timeline.undo? = none ↔ parts.past = []) ∧ (timeline.redo? = none ↔ parts.future = []) ∧
      timeline.canUndo = timeline.undo?.isSome ∧ timeline.canRedo = timeline.redo?.isSome ∧
      1 ≤ timeline.length ∧ (∀ most ∈ limit, timeline.length ≤ max 1 most) ∧
      timeline.cursor < timeline.length ∧
      (∀ request, timeline.respond? request = some (timeline.respond request)) ∧
      ∀ request ∈ [.undo, .redo], ∀ moved,
        timeline.respond? request = some (none, moved) → moved = timeline := by
  intro asked told timeline parts
  have same : asked = told.map id (Stacks.timeline limit) :=
    answerAll_view (Stacks.respond_timeline limit) ⟨[], first, []⟩ requests
  have shown : timeline = parts.timeline limit := congrArg Prod.snd same
  have onEntry : timeline.OnEntry := shown ▸ parts.timeline_onEntry limit
  have alone : Stacks.Within limit ⟨[], first, []⟩ := fun most _ => Nat.le_max_left 1 most
  have within : parts.Within limit :=
    answerAll_keeps (Stacks.Within limit) (fun _ request fits => fits.respond request) alone
      requests
  have inRange := respond?_eq_some onEntry
  refine ⟨congrArg Prod.fst same, shown, ?_, ?_, (isSome_undo? onEntry).symm,
    (isSome_redo? timeline).symm, Nat.one_le_of_lt onEntry, ?_, onEntry, inRange, ?_⟩
  · rw [shown, Stacks.undo?_timeline, Option.map_eq_none_iff, Stacks.undo?_eq_none_iff]
  · rw [shown, Stacks.redo?_timeline, Option.map_eq_none_iff, Stacks.redo?_eq_none_iff]
  · rw [shown]
    exact within
  · intro request isMove moved answered
    rw [inRange request] at answered
    have step : timeline.respond request = (none, moved) := Option.some.inj answered
    simp only [List.mem_cons, List.not_mem_nil, or_false] at isMove
    rcases isMove with rfl | rfl
    · rw [respond] at step
      cases undone : timeline.undo? <;> rw [undone] at step <;> cases step
      rfl
    · rw [respond] at step
      cases redone : timeline.redo? <;> rw [redone] at step <;> cases step
      rfl

end Timeline

end CloudDiagram
