import CloudDiagram.Proofs.Workspace.Coherence
import Mathlib.Data.List.Induction

/-!
# Undo and redo retrace the recorded changes

The trail of a workspace is what was shown at the entries from the oldest one up to
the current one. A recorded change appends what it shows to the trail, and a limit
only takes from the other end. So after some recorded changes the trail still ends
with what was shown before each of them, unless there were as many as the limit.

Going back drops the last view of a trail and shows the one before it. Going forward
from there restores not only what was shown but the whole workspace. What stands
before the trail's end never matters, so the walk may start in the middle of a
branch with entries to redo, and at an entry with a text of the user.
-/

namespace CloudDiagram

/-- The entries from the oldest one up to the current one. These are what going back
can lead to; those behind the cursor are dropped by the next change. -/
def Timeline.reached {α : Type} (timeline : Timeline α) : List α :=
  timeline.entries.take (timeline.cursor + 1)

/-- The entries up to a recorded one are the newest of those before and itself. It
is on the last entry then, so they are all entries. -/
theorem Timeline.reached_record {α : Type} (timeline : Timeline α) (entry : α) :
    (timeline.record entry).reached = newest timeline.limit (timeline.reached ++ [entry]) := by
  have onEntry : (timeline.record entry).OnEntry := record_onEntry timeline entry
  have last : (timeline.record entry).cursor = (timeline.record entry).entries.length - 1 := rfl
  simp only [OnEntry] at onEntry
  exact List.take_of_length_le (by omega)

namespace Workspace

/-- Make one change after another, whatever is answered. Changes that are refused or
have nothing to do stand among the others. -/
def applyAll (workspace : Workspace) (changes : List Change) : Workspace :=
  changes.foldl (fun workspace change => (workspace.apply change).2) workspace

/-- What was shown right before each change that was recorded, in their order. It is
told from the answers alone and not from the timeline, so it says what undo is meant
to bring back. -/
def shownBefore (workspace : Workspace) : List Change → List View
  | [] => []
  | change :: rest =>
    match workspace.apply change with
    | (.ok true, next) => workspace.view :: next.shownBefore rest
    | (.ok false, next) | (.error _, next) => next.shownBefore rest

/-- The workspace after several moves of one kind, where a move that is not possible
counts as one that does nothing. -/
def movedBy (move : Workspace → Bool × Workspace) : Nat → Workspace → Workspace
  | 0, workspace => workspace
  | count + 1, workspace => movedBy move count (move workspace).2

/-- What each of several moves of one kind answers, and what is shown after it. All
moves are told, not only the state at the end of them. -/
def answers (move : Workspace → Bool × Workspace) : Nat → Workspace → List (Bool × View)
  | 0, _ => []
  | count + 1, workspace =>
    ((move workspace).1, (move workspace).2.view) :: answers move count (move workspace).2

/-- What was shown at the entries up to the current one, oldest first. In a coherent
workspace its last view is what is live. -/
def trail (workspace : Workspace) : List View :=
  workspace.timeline.reached.map (Entry.view workspace.settings.generator)

/-- The last of several moves is made where the others led. The definition takes the
first move off, and the walk back is an induction from its end. -/
theorem movedBy_succ (move : Workspace → Bool × Workspace) (count : Nat) (workspace : Workspace) :
    movedBy move (count + 1) workspace = (move (movedBy move count workspace)).2 := by
  induction count generalizing workspace with
  | zero => rfl
  | succ count inductionHypothesis => exact inductionHypothesis (move workspace).2

/-- The last of several answers is given where the other moves led, which is the
same rule for the answers. -/
theorem answers_succ (move : Workspace → Bool × Workspace) (count : Nat) (workspace : Workspace) :
    answers move (count + 1) workspace =
      answers move count workspace ++
        [((move (movedBy move count workspace)).1, (movedBy move (count + 1) workspace).view)] := by
  induction count generalizing workspace with
  | zero => rfl
  | succ count inductionHypothesis =>
    exact congrArg (_ :: ·) (inductionHypothesis (move workspace).2)

/-- A workspace is determined by what it shows, its timeline and its settings, so
these three are compared to show that a walk led back to where it began. -/
theorem eq_of_view {workspace other : Workspace} (shown : workspace.view = other.view)
    (timeline : workspace.timeline = other.timeline)
    (settings : workspace.settings = other.settings) : workspace = other := by
  obtain ⟨diagram, code, overridden, _, _⟩ := workspace
  obtain ⟨rfl, rfl, rfl⟩ := View.mk.inj shown
  cases timeline
  cases settings
  rfl

/-- The trail of a coherent workspace ends with what is live, and there are as many
views before it as the cursor counts entries. -/
theorem Coherent.trail_eq {workspace : Workspace} (coherent : workspace.Coherent) :
    ∃ older, workspace.trail = older ++ [workspace.view] ∧
      older.length = workspace.timeline.cursor := by
  obtain ⟨entry, onEntry, shown⟩ := coherent
  have inside := (List.getElem?_eq_some_iff.mp onEntry).1
  refine ⟨(workspace.timeline.entries.take workspace.timeline.cursor).map
    (Entry.view workspace.settings.generator), ?_, ?_⟩
  · simp [trail, Timeline.reached, List.take_add_one, onEntry, shown]
  · simp [Nat.le_of_lt inside]

/-- Recording appends what is live to the trail, of which a limit keeps the newest.
The entries behind the cursor are not in the trail, so it does not matter that they
are dropped. -/
theorem trail_record {workspace : Workspace} (current : workspace.Current) :
    workspace.record.trail =
      Timeline.newest workspace.timeline.limit (workspace.trail ++ [workspace.view]) := by
  rw [← entry_view current, trail, trail, record_timeline, record_settings,
    Timeline.reached_record, ← Timeline.newest_map, List.map_append]
  rfl

/-- The end of the trail that is within the limit survives a recorded change, which
appends what it shows. A limit takes from the other end, and only what is more than
it allows. -/
theorem suffix_trail_apply {workspace next : Workspace} {change : Change} {known : List View}
    (recorded : workspace.apply change = (.ok true, next)) (ends : known <:+ workspace.trail)
    (fits : ∀ most, workspace.timeline.limit = some most → known.length + 1 ≤ max 1 most) :
    known ++ [next.view] <:+ next.trail := by
  rcases apply_cases workspace change with
    ⟨refused, _⟩ | ⟨changed, applied, current, timeline, settings⟩
  · exact absurd (congrArg Prod.fst recorded) refused
  · obtain rfl : changed.record = next := congrArg Prod.snd (applied.symm.trans recorded)
    have same : changed.trail = workspace.trail := by rw [trail, trail, timeline, settings]
    obtain ⟨older, joined⟩ := ends
    rw [trail_record current, record_view, same, timeline, ← joined]
    refine Timeline.suffix_newest ⟨older, by simp⟩ ?_
    intro most limited
    rw [List.length_append]
    exact fits most limited

/-- Changes keep a workspace coherent, refused ones included, by induction on the
changes. -/
theorem Coherent.applyAll {workspace : Workspace} (coherent : workspace.Coherent)
    (changes : List Change) : (workspace.applyAll changes).Coherent := by
  induction changes generalizing workspace with
  | nil => exact coherent
  | cons change rest inductionHypothesis =>
    exact inductionHypothesis (coherent.act (.change change))

/-- A change that is not recorded shows nothing new, and the views before the later
changes are those from where it was made. -/
theorem shownBefore_of_unrecorded {workspace : Workspace} {change : Change} {rest : List Change}
    (unrecorded : (workspace.apply change).1 ≠ .ok true)
    (same : (workspace.apply change).2 = workspace) :
    workspace.shownBefore (change :: rest) = workspace.shownBefore rest := by
  rcases answer : workspace.apply change with ⟨outcome, next⟩
  rw [answer] at unrecorded same
  obtain rfl : next = workspace := same
  match outcome with
  | .error refusal => simp [shownBefore, answer]
  | .ok false => simp [shownBefore, answer]
  | .ok true => exact absurd rfl unrecorded

/-- Before a recorded change, what is live is shown; the rest is shown from the
workspace that the change leads to. -/
theorem shownBefore_of_recorded {workspace next : Workspace} {change : Change}
    {rest : List Change} (recorded : workspace.apply change = (.ok true, next)) :
    workspace.shownBefore (change :: rest) = workspace.view :: next.shownBefore rest := by
  simp [shownBefore, recorded]

/-- What is shown first along some changes is what was live before all of them. If
none of them is recorded, it is what is live in the end as well. -/
theorem head?_shownBefore (workspace : Workspace) (changes : List Change) :
    (workspace.shownBefore changes ++ [(workspace.applyAll changes).view]).head? =
      some workspace.view := by
  induction changes with
  | nil => rfl
  | cons change rest inductionHypothesis =>
    rcases apply_cases workspace change with ⟨unrecorded, same⟩ | ⟨changed, recorded, _, _, _⟩
    · rw [shownBefore_of_unrecorded unrecorded same, applyAll, List.foldl_cons, same]
      exact inductionHypothesis
    · rw [shownBefore_of_recorded recorded]
      rfl

/-- After some changes the trail ends with what was shown before each recorded one
and what is live now, as long as all that is within the limit. The end of the trail
that is known before the changes is carried along: each recorded change makes it
longer. -/
theorem suffix_trail_applyAll {workspace : Workspace} {known : List View} (changes : List Change)
    (ends : known ++ [workspace.view] <:+ workspace.trail)
    (fits : ∀ most, workspace.timeline.limit = some most →
      known.length + (workspace.shownBefore changes).length + 1 ≤ max 1 most) :
    known ++ workspace.shownBefore changes ++ [(workspace.applyAll changes).view] <:+
      (workspace.applyAll changes).trail := by
  induction changes generalizing workspace known with
  | nil => simpa [shownBefore, applyAll] using ends
  | cons change rest inductionHypothesis =>
    rcases apply_cases workspace change with ⟨unrecorded, same⟩ | ⟨changed, recorded, _, timeline, _⟩
    · rw [shownBefore_of_unrecorded unrecorded same] at fits ⊢
      rw [applyAll, List.foldl_cons, same]
      exact inductionHypothesis ends fits
    · rw [shownBefore_of_recorded recorded] at fits ⊢
      rw [applyAll, List.foldl_cons, recorded, List.append_cons known]
      have longer : known ++ [workspace.view] ++ [changed.record.view] <:+ changed.record.trail := by
        refine suffix_trail_apply recorded ends ?_
        intro most limited
        have short := fits most limited
        rw [List.length_append]
        simp only [List.length_cons, List.length_nil] at short ⊢
        omega
      refine inductionHypothesis longer ?_
      intro most limited
      rw [record_timeline, Timeline.record_limit, timeline] at limited
      have short := fits most limited
      rw [List.length_append]
      simp only [List.length_cons, List.length_nil] at short ⊢
      omega

/-- What a move back answers tells whether there is an entry before the current one.
The cursor has to be on an entry, which it is in a coherent workspace. -/
theorem Coherent.undo_fst {workspace : Workspace} (coherent : workspace.Coherent) :
    workspace.undo.1 = workspace.timeline.canUndo := by
  obtain ⟨entry, onEntry, _⟩ := coherent
  have inside : workspace.timeline.OnEntry := (List.getElem?_eq_some_iff.mp onEntry).1
  rw [← Timeline.isSome_undo? inside]
  rcases undo_cases workspace with ⟨stuck, undone⟩ | ⟨_, _, found, undone⟩
  · rw [stuck, undone]
    rfl
  · rw [found, undone]
    rfl

/-- What a move forward answers tells whether there is an entry after the current
one. Nothing has to be known of the cursor here. -/
theorem redo_fst (workspace : Workspace) : workspace.redo.1 = workspace.timeline.canRedo := by
  rw [← Timeline.isSome_redo?]
  rcases redo_cases workspace with ⟨stuck, redone⟩ | ⟨_, _, found, redone⟩
  · rw [stuck, redone]
    rfl
  · rw [found, redone]
    rfl

/-- A move back that is answered by `false` does nothing: the cursor, the diagram
and the code stay as they are. -/
theorem undo_of_false {workspace : Workspace} (refused : workspace.undo.1 = false) :
    workspace.undo.2 = workspace := by
  rcases undo_cases workspace with ⟨_, undone⟩ | ⟨_, _, _, undone⟩
  · rw [undone]
  · rw [undone] at refused
    cases refused

/-- A move forward that is answered by `false` does nothing: the cursor, the diagram
and the code stay as they are. -/
theorem redo_of_false {workspace : Workspace} (refused : workspace.redo.1 = false) :
    workspace.redo.2 = workspace := by
  rcases redo_cases workspace with ⟨_, redone⟩ | ⟨_, _, _, redone⟩
  · rw [redone]
  · rw [redone] at refused
    cases refused

/-- Going forward from where going back led restores the whole workspace. The entry
it comes back to shows what was live, since the workspace was coherent. -/
theorem Coherent.redo_of_undo {workspace previous : Workspace} (coherent : workspace.Coherent)
    (undone : workspace.undo = (true, previous)) : previous.redo = (true, workspace) := by
  obtain ⟨last, onLast, lastShown⟩ := coherent
  rcases undo_cases workspace with ⟨_, stuck⟩ | ⟨entry, moved, found, result⟩
  · cases undone.symm.trans stuck
  obtain rfl : previous = { workspace with timeline := moved }.restore entry :=
    congrArg Prod.snd (undone.symm.trans result)
  obtain ⟨entries, limit, cursor, _⟩ := Timeline.undo?_eq_some found
  have inside : workspace.timeline.cursor < workspace.timeline.entries.length :=
    (List.getElem?_eq_some_iff.mp onLast).1
  -- the entry that was left stands behind the cursor now
  have possible : moved.canRedo = true := decide_eq_true (by rw [entries, cursor]; exact inside)
  rcases redo_cases ({ workspace with timeline := moved }.restore entry) with
    ⟨stuck, _⟩ | ⟨next, forward, refound, restored⟩
  · rw [restore_timeline] at stuck
    have there := Timeline.isSome_redo? moved
    rw [stuck, possible] at there
    cases there
  · rw [restore_timeline] at refound
    obtain ⟨sameEntries, sameLimit, sameCursor, onNext⟩ := Timeline.redo?_eq_some refound
    have returned : forward = workspace.timeline := by
      rw [entries] at sameEntries
      rw [limit] at sameLimit
      rw [cursor] at sameCursor
      cases forward
      cases hold : workspace.timeline
      simp_all
    obtain rfl : next = last := by
      rw [returned, onLast] at onNext
      exact (Option.some.inj onNext).symm
    rw [restored]
    refine congrArg (true, ·) (eq_of_view ?_ ?_ ?_)
    · simpa using lastShown
    · simpa using returned
    · simp

/-- Where the trail shows something before what is live, going back shows it, and
the trail is shorter by its last view then. -/
theorem Coherent.undo_eq {workspace : Workspace} (coherent : workspace.Coherent)
    {older : List View} {shown : View}
    (trailEq : workspace.trail = older ++ [shown, workspace.view]) :
    ∃ previous, workspace.undo = (true, previous) ∧ previous.view = shown ∧
      previous.trail = older ++ [shown] ∧ previous.Coherent := by
  obtain ⟨before, ended, atCursor⟩ := coherent.trail_eq
  obtain ⟨last, onLast, _⟩ := coherent
  obtain rfl : before = older ++ [shown] := by
    have joined : before ++ [workspace.view] = older ++ [shown] ++ [workspace.view] := by
      rw [← ended, trailEq]
      simp
    exact List.append_cancel_right joined
  have onEntry : workspace.timeline.OnEntry := (List.getElem?_eq_some_iff.mp onLast).1
  have possible : workspace.timeline.canUndo = true := by
    rw [List.length_append] at atCursor
    exact decide_eq_true (by simp only [List.length_cons, List.length_nil] at atCursor; omega)
  -- the trail has a view before the last one, so the cursor is not at the start
  rcases undo_cases workspace with ⟨stuck, _⟩ | ⟨entry, moved, undone, result⟩
  · have found := Timeline.isSome_undo? onEntry
    rw [stuck, possible] at found
    cases found
  · obtain ⟨entries, limit, cursor, onPrevious⟩ := Timeline.undo?_eq_some undone
    have coherentPrevious : ({ workspace with timeline := moved }.restore entry).Coherent :=
      restore_coherent onPrevious
    -- the entries stay where they are, so only the last view of the trail is dropped
    have shorter : ({ workspace with timeline := moved }.restore entry).trail =
        older ++ [shown] := by
      have whole : (workspace.timeline.entries.take (workspace.timeline.cursor + 1)).map
          (Entry.view workspace.settings.generator) = older ++ [shown] ++ [workspace.view] := by
        simpa [trail, Timeline.reached] using trailEq
      have dropped := congrArg (List.take workspace.timeline.cursor) whole
      rw [← List.map_take, List.take_take, Nat.min_eq_left (Nat.le_succ _),
        List.take_left' atCursor] at dropped
      rw [trail, restore_settings, restore_timeline, Timeline.reached, entries, cursor]
      exact dropped
    have shows : ({ workspace with timeline := moved }.restore entry).view = shown := by
      obtain ⟨others, same, _⟩ := coherentPrevious.trail_eq
      rw [shorter] at same
      exact (List.cons.inj (List.append_inj_right' same rfl)).1.symm
    exact ⟨_, result, shows, shorter, coherentPrevious⟩

/-- Going back as often as the trail allows shows its views from the last one on.
The induction takes the views from the end, since each step back drops the last. -/
theorem Coherent.undo_trail {workspace : Workspace} (coherent : workspace.Coherent)
    {older before : List View} (ends : workspace.trail = older ++ before ++ [workspace.view]) :
    answers undo before.length workspace = before.reverse.map (true, ·) ∧
      some (movedBy undo before.length workspace).view = (before ++ [workspace.view]).head? := by
  induction before using List.reverseRecOn generalizing workspace with
  | nil => exact ⟨rfl, rfl⟩
  | append_singleton before shown inductionHypothesis =>
    have atEnd : workspace.trail = (older ++ before) ++ [shown, workspace.view] := by
      rw [ends]
      simp
    obtain ⟨previous, undone, shows, shorter, coherentPrevious⟩ := coherent.undo_eq atEnd
    rw [← shows] at shorter
    obtain ⟨answered, reached⟩ := inductionHypothesis coherentPrevious shorter
    rw [List.length_append, List.length_singleton]
    constructor
    · simp [answers, undone, answered, shows]
    · rw [movedBy, undone, reached, shows]
      cases before <;> rfl

/-- Going forward as often as one went back restores the workspace, and shows the
same views on the way. The last step back is undone first, so the same induction
serves. -/
theorem Coherent.redo_trail {workspace : Workspace} (coherent : workspace.Coherent)
    {older before : List View} (ends : workspace.trail = older ++ before ++ [workspace.view]) :
    movedBy redo before.length (movedBy undo before.length workspace) = workspace ∧
      answers redo before.length (movedBy undo before.length workspace) =
        (before ++ [workspace.view]).tail.map (true, ·) := by
  induction before using List.reverseRecOn generalizing workspace with
  | nil => exact ⟨rfl, rfl⟩
  | append_singleton before shown inductionHypothesis =>
    have atEnd : workspace.trail = (older ++ before) ++ [shown, workspace.view] := by
      rw [ends]
      simp
    obtain ⟨previous, undone, shows, shorter, coherentPrevious⟩ := coherent.undo_eq atEnd
    rw [← shows] at shorter
    obtain ⟨returned, answered⟩ := inductionHypothesis coherentPrevious shorter
    have redone : previous.redo = (true, workspace) := coherent.redo_of_undo undone
    have back : movedBy undo (before.length + 1) workspace =
        movedBy undo before.length previous := by
      rw [movedBy, undone]
    have forward : movedBy redo (before.length + 1) (movedBy undo before.length previous) =
        workspace := by
      rw [movedBy_succ, returned, redone]
    rw [List.length_append, List.length_singleton, back]
    refine ⟨forward, ?_⟩
    have nonempty : before ++ [shown] ≠ [] := by simp
    rw [answers_succ, answered, returned, forward, redone, shows,
      List.tail_append_of_ne_nil nonempty, List.map_append]
    rfl

/-- Take any state that a new workspace can come to, also one with entries to redo
or with a text of the user, and make any changes, of which fewer are recorded than
the limit allows entries. Going back once for each recorded change is always
possible and shows what was live right before each of them, the last one first, down
to the state taken; going forward as often is possible too and shows the same again,
up to the whole workspace after the changes. In every such state a move is possible
exactly if there is an entry to move to, and one that is not possible does nothing.

Proof: the trail after the changes ends with what was shown before each recorded
one, and the walk back goes along that end of the trail. -/
theorem undo_redo_retrace (settings : WorkspaceSettings) (actions : List Action)
    (changes : List Change) :
    let origin := (start settings).run actions
    let final := origin.applyAll changes
    let before := origin.shownBefore changes
    let undone := movedBy undo before.length final
    ((∀ limit, settings.entryLimit = some limit → before.length ≤ max 1 limit.toNat - 1) →
      answers undo before.length final = before.reverse.map (true, ·) ∧
        undone.view = origin.view ∧
        answers redo before.length undone = (before ++ [final.view]).tail.map (true, ·) ∧
        movedBy redo before.length undone = final) ∧
      origin.undo.1 = origin.timeline.canUndo ∧ origin.redo.1 = origin.timeline.canRedo ∧
      (origin.undo.1 = false → origin.undo.2 = origin) ∧
      (origin.redo.1 = false → origin.redo.2 = origin) := by
  intro origin final before undone
  have coherent : origin.Coherent := (start_coherent settings).run actions
  refine ⟨fun fits => ?_, coherent.undo_fst, redo_fst origin, undo_of_false, redo_of_false⟩
  have limit : origin.timeline.limit = settings.entryLimit.map UInt64.toNat :=
    run_limit (start settings) actions
  have coherentFinal : final.Coherent := coherent.applyAll changes
  obtain ⟨older, ends⟩ : [] ++ before ++ [final.view] <:+ final.trail := by
    refine suffix_trail_applyAll changes ?_ ?_
    · obtain ⟨older, trailEq, _⟩ := coherent.trail_eq
      exact ⟨older, trailEq.symm⟩
    · intro most limited
      rw [limit, Option.map_eq_some_iff] at limited
      obtain ⟨word, isLimit, rfl⟩ := limited
      have short : (origin.shownBefore changes).length ≤ max 1 word.toNat - 1 := fits word isLimit
      have positive : 1 ≤ max 1 word.toNat := Nat.le_max_left 1 word.toNat
      simp only [List.length_nil]
      omega
  have trailEq : final.trail = older ++ before ++ [final.view] := by rw [← ends]; simp
  obtain ⟨back, reached⟩ := coherentFinal.undo_trail trailEq
  obtain ⟨returned, forward⟩ := coherentFinal.redo_trail trailEq
  have first : some undone.view = some origin.view :=
    reached.trans (head?_shownBefore origin changes)
  exact ⟨back, Option.some.inj first, forward, returned⟩

/-- Two changes are recorded under a limit of three entries, beside one that has
nothing to do and one that is refused, and from a state with an entry to redo. -/
theorem retrace_two_within_three :
    let settings : WorkspaceSettings := { entryLimit := some 3 }
    let origin := (start settings).run [.change (.overrideCode "draft"), .undo]
    let changes : List Change := [.edit (.removeNode "gone"), .overrideCode "note",
      .edit (.moveNode "gone" .origin), .edit (.addEdge ⟨"e", "c", "n"⟩)]
    let final := origin.applyAll changes
    let before := origin.shownBefore changes
    let undone := movedBy undo before.length final
    before = [⟨{}, "", false⟩, ⟨{}, "note", true⟩] ∧
      (∀ limit, settings.entryLimit = some limit → before.length ≤ max 1 limit.toNat - 1) ∧
      answers undo before.length final = before.reverse.map (true, ·) ∧
      undone.view = origin.view ∧
      answers redo before.length undone = (before ++ [final.view]).tail.map (true, ·) ∧
      movedBy redo before.length undone = final := by
  intro settings origin changes final before undone
  have fits : ∀ limit, settings.entryLimit = some limit →
      before.length ≤ max 1 limit.toNat - 1 := by
    rintro limit ⟨⟩
    decide
  exact ⟨by decide, fits,
    (undo_redo_retrace settings [.change (.overrideCode "draft"), .undo] changes).1 fits⟩

end Workspace

end CloudDiagram
