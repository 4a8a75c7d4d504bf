import CloudDiagram.Proofs.Session.Calls
import CloudDiagram.Proofs.Workspace.Retrace

/-!
# What an answer of the editor tells

A call that asks for an edit is answered by a flag or by an id. If that is `false` or the
empty text, the call has left no trace in the workspace; the registry may know more ids
than before. Any other answer means that one edit was recorded: one entry was appended to
those up to the cursor, and going back from it shows what was shown before the call.

So the answer is enough to know which of both happened. An id that is given is never the
empty text, although that may be the id of a node.

Editors share one registry of ids. Between two calls of one editor it may change in any way,
and nothing of what is said here depends on it.
-/

namespace CloudDiagram

/-- An id with a number is not empty, as there is a dash in it. So an empty answer
is never an id that was made up. -/
theorem numberedId_ne_empty (stem : String) (number : UInt64) : numberedId stem number ≠ "" := by
  intro empty
  have letters := congrArg String.toList empty
  simp [numberedId] at letters

namespace Workspace

/-- The entry of a recorded edit holds the edited diagram, and no text of the user:
an edit generates the code again. -/
theorem timeline_of_recorded {workspace next : Workspace} {edit : Diagram.Edit}
    (recorded : workspace.apply (.edit edit) = (.ok true, next)) :
    next.timeline = workspace.timeline.record { diagram := next.diagram } := by
  obtain ⟨diagram, -, rfl⟩ := eq_of_recorded recorded
  rfl

/-- Going back from a recorded change shows what was shown before it, unless only
one entry is kept. A single kept entry is the new one, and there is none to go back
to. -/
theorem Coherent.undo_recorded {workspace next : Workspace} {change : Change}
    (coherent : workspace.Coherent) (recorded : workspace.apply change = (.ok true, next))
    (room : ∀ most, workspace.timeline.limit = some most → max 1 most ≠ 1) :
    next.undo.1 = true ∧ next.undo.2.view = workspace.view := by
  have coherentNext : next.Coherent := by
    have kept := coherent.act (.change change)
    rwa [Workspace.act, recorded] at kept
  obtain ⟨older, trailEq, -⟩ := coherent.trail_eq
  have ends : [workspace.view] <:+ workspace.trail := ⟨older, trailEq.symm⟩
  obtain ⟨before, whole⟩ : [workspace.view] ++ [next.view] <:+ next.trail := by
    refine suffix_trail_apply recorded ends ?_
    intro most limited
    have several := room most limited
    rw [List.length_singleton]
    omega
  obtain ⟨previous, undone, shown, -⟩ := coherentNext.undo_eq whole.symm
  rw [undone]
  exact ⟨rfl, shown⟩

end Workspace

namespace Editor

/-- What is answered to a call. Calls that make something give its id, which is
empty if nothing was made. -/
inductive Reply where
  /-- Whether something was done. -/
  | flag (done : Bool)
  /-- The id of what was made. -/
  | id (text : String)
  /-- Nothing is answered. -/
  | silence
deriving DecidableEq

/-- The answers of calls that were refused or had nothing to do. They are all that
the caller can tell these by. -/
def Reply.Refused (reply : Reply) : Prop := reply = .flag false ∨ reply = .id ""

instance (reply : Reply) : Decidable reply.Refused := inferInstanceAs (Decidable (_ ∨ _))

/-- The answer to a call. It does not say why a call was refused. -/
def reply (session : Session) : Call → Reply
  | .addNode text => .flag (addNode session text).1
  | .removeNode id => .flag (removeNode session id).1
  | .updateNodes text => .flag (updateNodes session text).1
  | .updateEdges text => .flag (updateEdges session text).1
  | .updateAttributes id text => .flag (updateAttributes session id text).1
  | .moveNode id position => .flag (moveNode session id position).1
  | .addResource tag position => .id (addResource session tag position).1
  | .connect source target => .id (connect session source target).1
  | .overrideCode _ => .silence
  | .undo => .flag session.undo.1
  | .redo => .flag session.redo.1

/-- Whether a call asks for an edit of the diagram. A text of the user and going
back or forward do not edit it. -/
def Call.edits : Call → Bool
  | overrideCode _ | undo | redo => false
  | addNode _ | removeNode _ | updateNodes _ | updateEdges _ | updateAttributes _ _
  | moveNode _ _ | addResource _ _ | connect _ _ => true

/-- What a call that asks for an edit comes to: it is refused and leaves the
workspace as it was, or it is not and one edit has been recorded. -/
def Settles (before : Workspace) (reply : Reply) (after : Workspace) : Prop :=
  reply.Refused ∧ after = before ∨
    ¬reply.Refused ∧ ∃ edit, before.apply (.edit edit) = (.ok true, after)

/-- An edit is accepted exactly if it is recorded. An edit that had nothing to do is
not accepted either. -/
theorem settles_apply (session : Session) (edit : Diagram.Edit) :
    Settles session.workspace (.flag (accepted (session.apply (.edit edit)).1))
      (session.apply (.edit edit)).2.workspace := by
  change Settles _ (.flag (accepted (session.workspace.apply (.edit edit)).1))
    (session.workspace.apply (.edit edit)).2
  rcases session.workspace.apply_cases (.edit edit) with ⟨unrecorded, same⟩ | ⟨changed, recorded, -⟩
  · refine Or.inl ⟨Or.inl (congrArg Reply.flag ?_), same⟩
    rcases outcome : (session.workspace.apply (.edit edit)).1 with refusal | _ | _
    · rfl
    · rfl
    · exact absurd outcome unrecorded
  · refine Or.inr ⟨?_, edit, ?_⟩
    · rw [recorded]
      exact (by decide : ¬(Reply.flag true).Refused)
    · rw [recorded]

/-- A text that cannot be read is refused, whatever could be read of it; any other
asks for its edit. -/
theorem settles_applyReading {α : Type} (session : Session) (reading : Json.Reading α)
    (edit : α → Diagram.Edit) :
    let result := applyReading session reading fun value => .edit (edit value)
    Settles session.workspace (.flag result.1) result.2.workspace := by
  intro result
  cases read : reading.value? with
  | some value =>
    simp only [result, applyReading, read]
    exact settles_apply (session.hear reading) (edit value)
  | none =>
    simp only [result, applyReading, read]
    exact Or.inl ⟨Or.inl rfl, rfl⟩

/-- A text that is not empty is the answer of no refused call. -/
theorem not_refused_of_ne_empty {text : String} (given : text ≠ "") : ¬(Reply.id text).Refused := by
  rintro (⟨⟨⟩⟩ | empty)
  exact given (Reply.id.inj empty)

/-- The id of a new resource is given exactly if its node was added. It is refused
for a tag that denotes no kind, and if the id is taken. -/
theorem settles_addResource (session : Session) (tag : String) (position : Position) :
    Settles session.workspace (.id (addResource session tag position).1)
      (addResource session tag position).2.workspace := by
  cases known : Kind.ofTag? tag with
  | none =>
    simp only [addResource, Session.addTagged, known]
    exact Or.inl ⟨Or.inr rfl, rfl⟩
  | some kind =>
    let node := (Preset.place session.registry kind position).1
    have asked : addResource session tag position =
        ((((session.workspace.apply (.edit (.addNode node))).1.map fun _ => node.id).toOption).getD
          "", (session.addResource kind position).2) := by
      simp only [addResource, Session.addTagged, known]
      rfl
    have after : (session.addResource kind position).2.workspace =
        (session.workspace.apply (.edit (.addNode node))).2 := rfl
    rw [asked, after]
    cases taken : session.workspace.diagram.contains node.id with
    | true =>
      simp only [Workspace.apply, Diagram.edit, taken, if_true]
      exact Or.inl ⟨Or.inr rfl, rfl⟩
    | false =>
      refine Or.inr ⟨?_, .addNode node, ?_⟩
      · simp only [Workspace.apply, Diagram.edit, taken, Bool.false_eq_true, if_false]
        exact not_refused_of_ne_empty (numberedId_ne_empty kind.tag _)
      · simp [Workspace.apply, Diagram.edit, taken]

/-- The id of a new connection is given exactly if it was added. It is not if the
two ids are connected already. -/
theorem settles_connect (session : Session) (source target : String) :
    Settles session.workspace (.id (connect session source target).1)
      (connect session source target).2.workspace := by
  let edge := session.nextEdge source target
  change Settles _ (.id ((session.connect source target).1.getD ""))
    (session.connect source target).2.workspace
  rw [session.workspace_connect]
  cases given : (session.connect source target).1 with
  | some id =>
    obtain ⟨rfl, recorded⟩ := Session.connect_eq_some given
    exact Or.inr ⟨not_refused_of_ne_empty (numberedId_ne_empty "edge" _), .addEdge edge,
      Prod.ext recorded rfl⟩
  | none =>
    refine Or.inl ⟨Or.inr rfl, ?_⟩
    rcases session.workspace.apply_cases (.edit (.addEdge edge)) with
      ⟨-, same⟩ | ⟨changed, recorded, -⟩
    · exact same
    · rw [session.connect_eq, recorded] at given
      cases given

/-- Every call that asks for an edit is refused without a trace or has one edit
recorded. The cases are the calls, and each of them asks for one edit at most. -/
theorem settles_call (session : Session) {asked : Call} (edits : asked.edits = true) :
    Settles session.workspace (reply session asked) (call session asked).workspace := by
  cases asked with
  | addNode text => exact settles_applyReading session (Node.ofText text) .addNode
  | updateNodes text => exact settles_applyReading session (Node.listOfText text) .replaceNodes
  | updateEdges text =>
    exact settles_applyReading session (Connection.listOfText text) .replaceEdges
  | updateAttributes id text =>
    exact settles_applyReading session (Json.Value.ofText text) fun value =>
      .setPayload id (Payload.ofValue value)
  | removeNode id => exact settles_apply session (.removeNode id)
  | moveNode id position => exact settles_apply session (.moveNode id position)
  | addResource tag position => exact settles_addResource session tag position
  | connect source target => exact settles_connect session source target
  | overrideCode _ | undo | redo => cases edits

/-- The states of an editor that was started with a text of settings. It answers
calls, and between them other editors may change the registry that all editors
share. -/
inductive Reachable (settings : String) : Session → Prop where
  | started (registry : Registry) : Reachable settings (start settings registry)
  | called {session : Session} (asked : Call) (reachable : Reachable settings session) :
    Reachable settings (call session asked)
  | shared {session : Session} (registry : Registry) (reachable : Reachable settings session) :
    Reachable settings { session with registry }

/-- An editor may be asked one thing after another, and each state on the way is
reachable. -/
theorem Reachable.run {settings : String} {session : Session}
    (reachable : Reachable settings session) (calls : List Call) :
    Reachable settings (run session calls) := by
  induction calls generalizing session with
  | nil => exact reachable
  | cons asked calls inductionHypothesis => exact inductionHypothesis (reachable.called asked)

/-- A call does to the workspace what some action does, or nothing. What holds of
all runs of actions therefore holds of the workspace of an editor. -/
theorem exists_run_call (session : Session) (asked : Call) :
    ∃ actions, (call session asked).workspace = session.workspace.run actions := by
  by_cases edits : asked.edits = true
  · rcases settles_call session edits with ⟨-, same⟩ | ⟨-, edit, recorded⟩
    · exact ⟨[], same⟩
    · exact ⟨[.change (.edit edit)], (congrArg Prod.snd recorded).symm⟩
  · cases asked with
    | overrideCode text => exact ⟨[.change (.overrideCode text)], rfl⟩
    | undo => exact ⟨[.undo], rfl⟩
    | redo => exact ⟨[.redo], rfl⟩
    | addNode _ | removeNode _ | updateNodes _ | updateEdges _ | updateAttributes _ _
    | moveNode _ _ | addResource _ _ | connect _ _ => exact absurd rfl edits

/-- The workspace of an editor is one that actions lead to from a new one. The
registry has no part in it, however it is changed in between. -/
theorem Reachable.exists_run {settings : String} {session : Session}
    (reachable : Reachable settings session) :
    ∃ actions, session.workspace =
      (Workspace.start (.ofTextOrDefault settings)).run actions := by
  induction reachable with
  | started registry => exact ⟨[], rfl⟩
  | called asked _ inductionHypothesis =>
    obtain ⟨before, led⟩ := inductionHypothesis
    obtain ⟨actions, done⟩ := exists_run_call _ asked
    refine ⟨before ++ actions, ?_⟩
    rw [done, led, Workspace.run, Workspace.run, Workspace.run, List.foldl_append]
  | shared _ _ inductionHypothesis => exact inductionHypothesis

/-- The workspace of an editor is coherent, as every workspace is that actions lead
to. -/
theorem Reachable.coherent {settings : String} {session : Session}
    (reachable : Reachable settings session) : session.workspace.Coherent := by
  obtain ⟨actions, led⟩ := reachable.exists_run
  rw [led]
  exact (Workspace.start_coherent _).run actions

/-- An editor keeps the settings that it was started with, since no action changes
them. -/
theorem Reachable.settings_eq {settings : String} {session : Session}
    (reachable : Reachable settings session) :
    session.workspace.settings = .ofTextOrDefault settings := by
  obtain ⟨actions, led⟩ := reachable.exists_run
  rw [led]
  exact Workspace.run_settings _ actions

/-- An editor keeps the limit that it was started with, none if its settings could
not be read. -/
theorem Reachable.limit_eq {settings : String} {session : Session}
    (reachable : Reachable settings session) :
    session.workspace.timeline.limit =
      (WorkspaceSettings.ofTextOrDefault settings).entryLimit.map UInt64.toNat := by
  obtain ⟨actions, led⟩ := reachable.exists_run
  rw [led]
  exact Workspace.run_limit _ actions

/-- In every state of an editor, a call that asks for an edit and is refused leaves
the workspace as it was. If it is not refused, one entry without a text of the user
was appended to those up to the cursor, of which the limit keeps the newest; the
cursor is on it, there is nothing to redo, and if more than one entry is kept, going
back shows the diagram and the code from before the call. -/
theorem answer_tells_trace {settings : String} {session : Session}
    (reachable : Reachable settings session) {asked : Call} (edits : asked.edits = true) :
    let before := session.workspace.timeline
    let after := call session asked
    ((reply session asked).Refused → after.workspace = session.workspace) ∧
      (¬(reply session asked).Refused →
        after.workspace.timeline.entries = Timeline.newest before.limit
          (before.entries.take (before.cursor + 1) ++ [{ diagram := after.workspace.diagram }]) ∧
        after.workspace.timeline.cursor + 1 = after.workspace.timeline.entries.length ∧
        after.redo.1 = false ∧
        ((∀ limit, (WorkspaceSettings.ofTextOrDefault settings).entryLimit = some limit →
            max 1 limit.toNat ≠ 1) →
          after.undo.1 = true ∧ after.undo.2.workspace.view = session.workspace.view)) := by
  intro before after
  rcases settles_call session edits with ⟨refused, same⟩ | ⟨done, edit, recorded⟩
  · exact ⟨fun _ => same, fun done => absurd refused done⟩
  refine ⟨fun refused => absurd refused done, fun _ => ?_⟩
  have timeline : after.workspace.timeline =
      before.record { diagram := after.workspace.diagram } :=
    Workspace.timeline_of_recorded recorded
  have onEntry : after.workspace.timeline.OnEntry := timeline ▸ before.record_onEntry _
  have stuck : after.workspace.timeline.canRedo = false := timeline ▸ before.canRedo_record _
  refine ⟨congrArg Timeline.entries timeline, ?_, ?_, ?_⟩
  · have last : ¬after.workspace.timeline.cursor + 1 < after.workspace.timeline.entries.length :=
      of_decide_eq_false stuck
    exact Nat.le_antisymm onEntry (Nat.not_lt.mp last)
  · exact (Workspace.redo_fst after.workspace).trans stuck
  · intro several
    refine reachable.coherent.undo_recorded recorded ?_
    intro most limited
    rw [reachable.limit_eq, Option.map_eq_some_iff] at limited
    obtain ⟨word, isLimit, rfl⟩ := limited
    exact several word isLimit

/-- In an editor that keeps two entries, where a text of the user was left by going back and
brought back by going forward, a list that breaks off after its first node is refused without
a trace. An id is given for a connection between nodes that do not exist; it is recorded as
the second entry, and going back shows the user's text again. -/
theorem answer_tells_trace_of_text :
    let settings := "\x7b\"history_limit\":2\x7d"
    let calls : List Call := [.overrideCode "draft", .undo, .redo]
    let session := run (start settings {}) calls
    let broken : Call := .updateNodes "[\x7b\"id\":\"a\"\x7d,\x7b\"id\":"
    let joining : Call := .connect "" ""
    Reachable settings session ∧ broken.edits = true ∧ joining.edits = true ∧
      (reply session broken).Refused ∧ ¬(reply session joining).Refused ∧
      (call session broken).workspace = session.workspace ∧
      (call session joining).workspace.timeline.entries =
        [⟨{}, some "draft"⟩, ⟨⟨[], [⟨"edge-1", "", ""⟩]⟩, none⟩] ∧
      (call session joining).undo.1 = true ∧
      (call session joining).undo.2.workspace.view = ⟨{}, "draft", true⟩ := by
  intro settings calls session broken joining
  have reachable : Reachable settings session := (Reachable.started {}).run calls
  have brokenEdits : broken.edits = true := rfl
  have joiningEdits : joining.edits = true := rfl
  have refused : (reply session broken).Refused := by decide +kernel
  have given : ¬(reply session joining).Refused := by decide +kernel
  have several : ∀ limit, (WorkspaceSettings.ofTextOrDefault settings).entryLimit = some limit →
      max 1 limit.toNat ≠ 1 := by
    have two : (WorkspaceSettings.ofTextOrDefault settings).entryLimit = some 2 := by
      decide +kernel
    rintro limit limited
    obtain rfl := Option.some.inj (two.symm.trans limited)
    decide
  obtain ⟨entries, -, -, back⟩ := (answer_tells_trace reachable joiningEdits).2 given
  obtain ⟨possible, shown⟩ := back several
  have recorded : Timeline.newest session.workspace.timeline.limit
      (session.workspace.timeline.entries.take (session.workspace.timeline.cursor + 1) ++
        [{ diagram := (call session joining).workspace.diagram }]) =
      [⟨{}, some "draft"⟩, ⟨⟨[], [⟨"edge-1", "", ""⟩]⟩, none⟩] := by decide +kernel
  have draft : session.workspace.view = ⟨{}, "draft", true⟩ := by decide +kernel
  exact ⟨reachable, brokenEdits, joiningEdits, refused, given,
    (answer_tells_trace reachable brokenEdits).1 refused, entries.trans recorded, possible,
    shown.trans draft⟩

end Editor

end CloudDiagram
