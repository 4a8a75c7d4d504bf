import CloudDiagram.Workspace

/-!
# What is live stands in the timeline

A workspace shows a diagram, a code and whether that code is the user's own text.
An entry determines the same three things, because a diagram without a text of the
user shows the code that is generated from it. The workspace is coherent when the
entry under the cursor determines exactly what is live.

A change that is refused or has nothing to do returns the workspace it was given.
Any other change records the live state, and a move of the cursor brings back the
entry it leads to; both end in a coherent workspace. So whatever was done to a new
workspace, the cursor is on an entry, and that entry is the live state.
-/

namespace CloudDiagram

/-- What may be done to a workspace. There are no other ways to change one, so what
each of these keeps holds in every state that a workspace can come to. -/
inductive Action where
  /-- Ask for a change. -/
  | change (change : Change)
  /-- Go back one entry. -/
  | undo
  /-- Go forward one entry. -/
  | redo
deriving DecidableEq

/-- What a workspace shows to its user. The timeline and the settings are left out,
since two workspaces may show the same and differ in what they remember. -/
structure View where
  diagram : Diagram
  code : String
  /-- Whether the code is a text of the user. -/
  overridden : Bool
deriving DecidableEq

/-- What is shown when an entry is brought back: the text of the user if the entry
has one, and else the code that is generated from its diagram. -/
def Entry.view (generator : GeneratorSettings) (entry : Entry) : View :=
  match entry.override with
  | some text => ⟨entry.diagram, text, true⟩
  | none =>
    ⟨entry.diagram, Terraform.generate generator entry.diagram.nodes entry.diagram.edges, false⟩

namespace Workspace

/-- What is live, put together so that it can be compared with what an entry shows.
-/
def view (workspace : Workspace) : View :=
  ⟨workspace.diagram, workspace.code, workspace.overridden⟩

/-- Do one thing, whatever it answers. A change that is refused and a move that is
not possible leave the workspace as it is. -/
def act (workspace : Workspace) : Action → Workspace
  | .change change => (workspace.apply change).2
  | .undo => workspace.undo.2
  | .redo => workspace.redo.2

/-- Do one thing after another, from the first to the last. All states of a
workspace are those that a new one comes to in this way. -/
def run (workspace : Workspace) (actions : List Action) : Workspace := actions.foldl act workspace

/-- The code is generated from the diagram, unless it is a text of the user. It is
what recording needs, since an entry does not keep generated code. -/
def Current (workspace : Workspace) : Prop :=
  workspace.overridden = false →
    workspace.code =
      Terraform.generate workspace.settings.generator workspace.diagram.nodes
        workspace.diagram.edges

/-- The cursor is on an entry that shows what is live. This is the invariant that
every step keeps, and most of what is said about undo and redo rests on it. -/
def Coherent (workspace : Workspace) : Prop :=
  ∃ entry, workspace.timeline.entries[workspace.timeline.cursor]? = some entry ∧
    entry.view workspace.settings.generator = workspace.view

@[simp]
theorem record_view (workspace : Workspace) : workspace.record.view = workspace.view := rfl

@[simp]
theorem record_settings (workspace : Workspace) :
    workspace.record.settings = workspace.settings := rfl

@[simp]
theorem record_timeline (workspace : Workspace) :
    workspace.record.timeline = workspace.timeline.record workspace.entry := rfl

/-- Generated code is current, whatever was shown before. -/
theorem regenerate_current (workspace : Workspace) : workspace.regenerate.Current :=
  fun _ => rfl

/-- The entry of a workspace with current code shows what is live. Code that is not
the user's own is left out of the entry, and comes back since it can be generated
from the diagram. -/
theorem entry_view {workspace : Workspace} (current : workspace.Current) :
    workspace.entry.view workspace.settings.generator = workspace.view := by
  cases own : workspace.overridden with
  | true => simp [entry, Entry.view, view, own]
  | false =>
    have code := current own
    simp [entry, Entry.view, view, own, code]

/-- An entry that is brought back is what is live, whatever was live before. Nothing
of the old state is left but the timeline and the settings. -/
@[simp]
theorem restore_view (workspace : Workspace) (entry : Entry) :
    (workspace.restore entry).view = entry.view workspace.settings.generator := by
  cases own : entry.override <;> simp [restore, Entry.view, view, regenerate, own]

/-- Bringing an entry back keeps the settings, so code is generated with the same
ones as when the entry was recorded. -/
@[simp]
theorem restore_settings (workspace : Workspace) (entry : Entry) :
    (workspace.restore entry).settings = workspace.settings := by
  cases own : entry.override <;> simp [restore, regenerate, own]

/-- Bringing an entry back does not touch the timeline. The cursor was moved onto
the entry before. -/
@[simp]
theorem restore_timeline (workspace : Workspace) (entry : Entry) :
    (workspace.restore entry).timeline = workspace.timeline := by
  cases own : entry.override <;> simp [restore, regenerate, own]

/-- A change leaves the workspace as it is, unless it is answered by `true`; then
the live state after it, with current code, has been recorded. All later facts about
changes start from these two cases, so the definition is not opened again. -/
theorem apply_cases (workspace : Workspace) (change : Change) :
    ((workspace.apply change).1 ≠ .ok true ∧ (workspace.apply change).2 = workspace) ∨
      ∃ changed : Workspace, workspace.apply change = (.ok true, changed.record) ∧
        changed.Current ∧ changed.timeline = workspace.timeline ∧
        changed.settings = workspace.settings := by
  cases change with
  | overrideCode text =>
    refine Or.inr ⟨{ workspace with code := text, overridden := true }, rfl, ?_, rfl, rfl⟩
    intro impossible
    cases impossible
  | edit edit =>
    cases edited : workspace.diagram.edit edit with
    | error refusal => exact Or.inl (by simp [apply, edited])
    | ok result =>
      cases result with
      | none => exact Or.inl (by simp [apply, edited])
      | some diagram =>
        exact Or.inr ⟨{ workspace with diagram }.regenerate, by simp [apply, edited],
          regenerate_current _, rfl, rfl⟩

/-- An edit that gives a diagram is recorded with the code that is generated from
it, also where a text of the user was shown before. -/
theorem apply_of_edited {workspace : Workspace} {edit : Diagram.Edit} {diagram : Diagram}
    (edited : workspace.diagram.edit edit = .ok (some diagram)) :
    workspace.apply (.edit edit) = (.ok true, { workspace with diagram }.regenerate.record) := by
  simp [apply, edited]

/-- After a recorded edit the diagram is the edited one, its code was generated, and
both were recorded. It is the converse of the rule above, for an edit that is known
to be recorded. -/
theorem eq_of_recorded {workspace next : Workspace} {edit : Diagram.Edit}
    (recorded : workspace.apply (.edit edit) = (.ok true, next)) :
    ∃ diagram, workspace.diagram.edit edit = .ok (some diagram) ∧
      next = { workspace with diagram }.regenerate.record := by
  rcases edited : workspace.diagram.edit edit with refusal | _ | diagram
  all_goals
    simp only [apply, edited] at recorded
    cases recorded
  exact ⟨diagram, rfl, rfl⟩

/-- A recorded edit leaves the code that is generated from its diagram, with the
settings of the workspace. -/
theorem code_of_recorded {workspace next : Workspace} {edit : Diagram.Edit}
    (recorded : workspace.apply (.edit edit) = (.ok true, next)) :
    next.code =
      Terraform.generate workspace.settings.generator next.diagram.nodes next.diagram.edges := by
  obtain ⟨diagram, -, rfl⟩ := eq_of_recorded recorded
  rfl

/-- Going back either is impossible and does nothing, or brings back the entry
before the current one. All later facts about going back start from these two cases.
-/
theorem undo_cases (workspace : Workspace) :
    (workspace.timeline.undo? = none ∧ workspace.undo = (false, workspace)) ∨
      ∃ entry timeline, workspace.timeline.undo? = some (entry, timeline) ∧
        workspace.undo = (true, { workspace with timeline }.restore entry) := by
  cases undone : workspace.timeline.undo? with
  | none => exact Or.inl ⟨rfl, by simp [undo, undone]⟩
  | some moved => exact Or.inr ⟨moved.1, moved.2, rfl, by simp [undo, undone]⟩

/-- Going forward either is impossible and does nothing, or brings back the entry
after the current one. All later facts about going forward start from these two
cases. -/
theorem redo_cases (workspace : Workspace) :
    (workspace.timeline.redo? = none ∧ workspace.redo = (false, workspace)) ∨
      ∃ entry timeline, workspace.timeline.redo? = some (entry, timeline) ∧
        workspace.redo = (true, { workspace with timeline }.restore entry) := by
  cases redone : workspace.timeline.redo? with
  | none => exact Or.inl ⟨rfl, by simp [redo, redone]⟩
  | some moved => exact Or.inr ⟨moved.1, moved.2, rfl, by simp [redo, redone]⟩

/-- No step changes the settings. They are given when the workspace is started, and
there is no request for others. -/
@[simp]
theorem act_settings (workspace : Workspace) (action : Action) :
    (workspace.act action).settings = workspace.settings := by
  cases action with
  | change change =>
    rcases apply_cases workspace change with ⟨_, same⟩ | ⟨changed, applied, _, _, settings⟩
    · rw [act, same]
    · rw [act, applied, record_settings, settings]
  | undo =>
    rcases undo_cases workspace with ⟨_, undone⟩ | ⟨entry, timeline, _, undone⟩ <;>
      simp [act, undone]
  | redo =>
    rcases redo_cases workspace with ⟨_, redone⟩ | ⟨entry, timeline, _, redone⟩ <;>
      simp [act, redone]

/-- No step changes the limit of the timeline, which is the one of the settings. -/
theorem act_limit (workspace : Workspace) (action : Action) :
    (workspace.act action).timeline.limit = workspace.timeline.limit := by
  cases action with
  | change change =>
    rcases apply_cases workspace change with ⟨_, same⟩ | ⟨changed, applied, _, timeline, _⟩
    · rw [act, same]
    · rw [act, applied, record_timeline, timeline]
      rfl
  | undo =>
    rcases undo_cases workspace with ⟨_, undone⟩ | ⟨entry, timeline, moved, undone⟩
    · simp [act, undone]
    · have kept := (Timeline.undo?_eq_some moved).2.1
      simp [act, undone, kept]
  | redo =>
    rcases redo_cases workspace with ⟨_, redone⟩ | ⟨entry, timeline, moved, redone⟩
    · simp [act, redone]
    · have kept := (Timeline.redo?_eq_some moved).2.1
      simp [act, redone, kept]

/-- A new workspace is coherent: nothing is generated from the empty diagram, so the
empty code of the first entry is current. -/
theorem start_coherent (settings : WorkspaceSettings) : (start settings).Coherent :=
  ⟨{}, rfl, rfl⟩

/-- Recording makes a workspace with current code coherent, wherever the cursor was
before: it is on the new entry then, and the limit never takes that one away. -/
theorem record_coherent {workspace : Workspace} (current : workspace.Current) :
    workspace.record.Coherent := by
  refine ⟨workspace.entry, ?_, entry_view current⟩
  exact workspace.timeline.current_record workspace.entry

/-- A workspace that was moved onto an entry and shows it is coherent. Moves of the
timeline lead to such a place. -/
theorem restore_coherent {workspace : Workspace} {entry : Entry}
    (onEntry : workspace.timeline.entries[workspace.timeline.cursor]? = some entry) :
    (workspace.restore entry).Coherent := by
  refine ⟨entry, ?_, ?_⟩
  · rw [restore_timeline]
    exact onEntry
  · rw [restore_settings, restore_view]

/-- In a coherent workspace the code is current, since an entry without a text of
the user shows generated code. -/
theorem Coherent.current {workspace : Workspace} (coherent : workspace.Coherent) :
    workspace.Current := by
  obtain ⟨entry, -, shown⟩ := coherent
  intro generated
  rw [Entry.view] at shown
  split at shown
  · obtain ⟨-, -, overridden⟩ := View.mk.inj shown
    exact absurd generated (by simp [← overridden])
  · obtain ⟨diagram, code, -⟩ := View.mk.inj shown
    rw [← code, diagram]

/-- Every step keeps a workspace coherent, with one case for each of the three
things that may be done to it. -/
theorem Coherent.act {workspace : Workspace} (coherent : workspace.Coherent) (action : Action) :
    (workspace.act action).Coherent := by
  cases action with
  | change change =>
    rcases apply_cases workspace change with ⟨_, same⟩ | ⟨changed, applied, current, _, _⟩
    · rw [Workspace.act, same]
      exact coherent
    · rw [Workspace.act, applied]
      exact record_coherent current
  | undo =>
    rcases undo_cases workspace with ⟨_, undone⟩ | ⟨entry, timeline, moved, undone⟩
    · rw [Workspace.act, undone]
      exact coherent
    · rw [Workspace.act, undone]
      exact restore_coherent (Timeline.undo?_eq_some moved).2.2.2
  | redo =>
    rcases redo_cases workspace with ⟨_, redone⟩ | ⟨entry, timeline, moved, redone⟩
    · rw [Workspace.act, redone]
      exact coherent
    · rw [Workspace.act, redone]
      exact restore_coherent (Timeline.redo?_eq_some moved).2.2.2

/-- Every run keeps a workspace coherent, by induction on what is done. -/
theorem Coherent.run {workspace : Workspace} (coherent : workspace.Coherent)
    (actions : List Action) : (workspace.run actions).Coherent := by
  induction actions generalizing workspace with
  | nil => exact coherent
  | cons action rest inductionHypothesis => exact inductionHypothesis (coherent.act action)

/-- Every run keeps the settings, so code is generated with the same ones all along.
-/
@[simp]
theorem run_settings (workspace : Workspace) (actions : List Action) :
    (workspace.run actions).settings = workspace.settings := by
  induction actions generalizing workspace with
  | nil => rfl
  | cons action rest inductionHypothesis =>
    exact (inductionHypothesis (workspace.act action)).trans (act_settings workspace action)

/-- Every run keeps the limit of the timeline, by induction on what is done. -/
theorem run_limit (workspace : Workspace) (actions : List Action) :
    (workspace.run actions).timeline.limit = workspace.timeline.limit := by
  induction actions generalizing workspace with
  | nil => rfl
  | cons action rest inductionHypothesis =>
    exact (inductionHypothesis (workspace.act action)).trans (act_limit workspace action)

/-- Whatever was done to a new workspace, in whatever order, the cursor is on an
entry that holds the live diagram. If the code is a text of the user, the entry has
that text; if it is not, the entry has none, and the code is generated from the
diagram with the settings that the workspace was started with.

Proof: the workspace is coherent at the start and each step keeps it so. The entry
under the cursor then shows the diagram, the code and whose code it is, and its text
is read off these. -/
theorem live_state_in_timeline (settings : WorkspaceSettings) (actions : List Action) :
    let workspace := (start settings).run actions
    workspace.timeline.cursor < workspace.timeline.entries.length ∧
      ∃ entry, workspace.timeline.entries[workspace.timeline.cursor]? = some entry ∧
        entry.diagram = workspace.diagram ∧
        (workspace.overridden = true → entry.override = some workspace.code) ∧
        (workspace.overridden = false → entry.override = none ∧
          workspace.code = Terraform.generate settings.generator workspace.diagram.nodes
            workspace.diagram.edges) := by
  intro workspace
  have kept : workspace.settings = settings := run_settings (start settings) actions
  obtain ⟨entry, onEntry, shown⟩ : workspace.Coherent := (start_coherent settings).run actions
  have inside : workspace.timeline.cursor < workspace.timeline.entries.length :=
    (List.getElem?_eq_some_iff.mp onEntry).1
  refine ⟨inside, entry, onEntry, ?_⟩
  rw [kept] at shown
  cases own : entry.override with
  | some text =>
    simp only [Entry.view, own, view, View.mk.injEq] at shown
    obtain ⟨diagram, code, overridden⟩ := shown
    refine ⟨diagram, fun _ => congrArg some code, fun generated => ?_⟩
    rw [← overridden] at generated
    cases generated
  | none =>
    simp only [Entry.view, own, view, View.mk.injEq] at shown
    obtain ⟨diagram, code, overridden⟩ := shown
    refine ⟨diagram, fun replaced => ?_, fun _ => ⟨rfl, ?_⟩⟩
    · rw [← overridden] at replaced
      cases replaced
    · rw [← diagram, ← code]

end Workspace

end CloudDiagram
