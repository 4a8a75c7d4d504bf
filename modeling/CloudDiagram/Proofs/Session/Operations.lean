import CloudDiagram.Proofs.Registry.History
import CloudDiagram.Proofs.Workspace.Coherence
import CloudDiagram.Session

/-!
# What operations do to a session

A session asks its registry for little: the ids that an operation names are met, and for a
resource or a connection an id is made up. Making a change meets the ids in it, but those
of a new resource and of a new connection are known by then.

The ids in a workspace are those in the live diagram and in the diagrams of all entries.
After an operation they are ids from before it and ids that the operation met or made up.
So a registry that knew the ids of its workspace knows them still.

The diagrams after an operation are those from before it and the live one, edited as was asked.
So what all diagrams have at first and the edits keep, all diagrams have after any run.
-/

namespace CloudDiagram

/-- What may be asked of a session. Changes are those of its workspace; the others
make up ids or move in the timeline. -/
inductive Operation where
  /-- Make a change. -/
  | change (change : Change)
  /-- Add a preset resource. -/
  | addResource (kind : Kind) (position : Position)
  /-- Add a preset resource of the kind that a tag denotes. -/
  | addTagged (tag : String) (position : Position)
  /-- Connect two ids. -/
  | connect (source target : String)
  /-- Go back one entry. -/
  | undo
  /-- Go forward one entry. -/
  | redo
deriving DecidableEq

/-- What an operation asks of the registry, in this order. A connection has its ends
met before its id is made up. -/
def Operation.requests : Operation → List IdRequest
  | .change asked => asked.ids.map .meet
  | .addResource kind _ => [.make kind.tag]
  | .addTagged tag _ =>
    match Kind.ofTag? tag with
    | some kind => [.make kind.tag]
    | none => []
  | .connect source target => [.meet source, .meet target, .make "edge"]
  | .undo | .redo => []

/-- Do what is asked, whatever is answered. An operation that is refused may still
have taught the registry ids. -/
def Session.operate (session : Session) : Operation → Session
  | .change change => (session.apply change).2
  | .addResource kind position => (session.addResource kind position).2
  | .addTagged tag position => (session.addTagged tag position).2
  | .connect source target => (session.connect source target).2
  | .undo => session.undo.2
  | .redo => session.redo.2

/-- The ids in a diagram: those of its nodes, of its connections and of their ends.
The ends need not be nodes. -/
def Diagram.ids (diagram : Diagram) : List String :=
  diagram.nodes.map Node.id ++
    diagram.edges.flatMap fun edge => [edge.id, edge.source, edge.target]

namespace Workspace

/-- The live diagram and those of all entries, also of the entries that can only be
reached by going forward. -/
def diagrams (workspace : Workspace) : List Diagram :=
  workspace.diagram :: workspace.timeline.entries.map Entry.diagram

/-- The ids in the live diagram and in those of all entries. -/
def ids (workspace : Workspace) : List String := workspace.diagrams.flatMap Diagram.ids

end Workspace

namespace Timeline

variable {α : Type}

/-- Within a limit the newest entries stay, which are the last ones. -/
theorem newest_suffix (limit : Option Nat) (entries : List α) :
    newest limit entries <:+ entries := by
  cases limit with
  | none => exact List.suffix_refl entries
  | some limit => exact List.drop_suffix _ entries

/-- The entries after recording one are some of those from before it, and then
itself. Entries that could be reached by going forward are dropped, and so are the
oldest ones past the limit. -/
theorem entries_record (timeline : Timeline α) (entry : α) :
    ∃ older, (timeline.record entry).entries = older ++ [entry] ∧ older ⊆ timeline.entries := by
  have last : [entry] <:+
      newest timeline.limit (timeline.entries.take (timeline.cursor + 1) ++ [entry]) :=
    suffix_newest (List.suffix_append _ _) (fun most _ => Nat.le_max_left 1 most)
  obtain ⟨older, joined⟩ := last
  have inside : older ++ [entry] <:+ timeline.entries.take (timeline.cursor + 1) ++ [entry] := by
    rw [joined]
    exact newest_suffix _ _
  obtain ⟨oldest, whole⟩ := inside
  have before : oldest ++ older = timeline.entries.take (timeline.cursor + 1) :=
    List.append_cancel_right (by rwa [List.append_assoc])
  refine ⟨older, joined.symm, ?_⟩
  intro kept member
  refine List.mem_of_mem_take (i := timeline.cursor + 1) ?_
  rw [← before]
  exact List.mem_append_right oldest member

/-- The entries before a recorded one were there already, whatever the limit has
dropped. -/
theorem take_cursor_record_subset (timeline : Timeline α) (entry : α) :
    (timeline.record entry).entries.take (timeline.record entry).cursor ⊆ timeline.entries := by
  obtain ⟨older, entries, inside⟩ := timeline.entries_record entry
  have cursor : (timeline.record entry).cursor = older.length := by
    change (timeline.record entry).entries.length - 1 = older.length
    simp [entries]
  rw [entries, cursor, List.take_left]
  exact inside

end Timeline

namespace Workspace

/-- Recording adds no diagram, as what is live is one already. -/
theorem diagrams_record_subset (workspace : Workspace) :
    workspace.record.diagrams ⊆ workspace.diagrams := by
  intro diagram member
  rcases List.mem_cons.mp member with rfl | member
  · exact List.mem_cons_self
  · obtain ⟨entry, kept, rfl⟩ := List.mem_map.mp member
    obtain ⟨older, entries, inside⟩ := workspace.timeline.entries_record workspace.entry
    rw [record_timeline, entries] at kept
    rcases List.mem_append.mp kept with before | new
    · exact List.mem_cons_of_mem _ (List.mem_map_of_mem (inside before))
    · obtain rfl := List.mem_singleton.mp new
      exact List.mem_cons_self

/-- A diagram after a change is one from before or the edited one. A change that is
refused adds none. -/
theorem mem_diagrams_apply {workspace : Workspace} {change : Change} {diagram : Diagram}
    (member : diagram ∈ (workspace.apply change).2.diagrams) :
    diagram ∈ workspace.diagrams ∨
      ∃ edit, change = .edit edit ∧ workspace.diagram.edit edit = .ok (some diagram) := by
  cases change with
  | overrideCode text =>
    have same : { workspace with code := text, overridden := true }.diagrams =
        workspace.diagrams := rfl
    rw [← same]
    exact Or.inl (diagrams_record_subset _ member)
  | edit edit =>
    rcases edited : workspace.diagram.edit edit with refusal | _ | result
    · exact Or.inl (by simpa [apply, edited] using member)
    · exact Or.inl (by simpa [apply, edited] using member)
    · simp only [apply, edited] at member
      rcases List.mem_cons.mp (diagrams_record_subset _ member) with rfl | older
      · exact Or.inr ⟨edit, rfl, edited⟩
      · exact Or.inl (List.mem_cons_of_mem _ older)

/-- A connection that is recorded was appended, and the code was generated anew. -/
theorem apply_addEdge {workspace : Workspace} {edge : Connection}
    (recorded : (workspace.apply (.edit (.addEdge edge))).1 = .ok true) :
    (workspace.apply (.edit (.addEdge edge))).2 = ({ workspace with
      diagram := { workspace.diagram with
        edges := workspace.diagram.edges ++ [edge] } }.regenerate.record) := by
  cases taken : workspace.diagram.edges.any edge.parallel with
  | true => simp [apply, Diagram.edit, taken] at recorded
  | false => simp [apply, Diagram.edit, taken]

/-- Bringing back an entry of the timeline adds no diagram, whether its code is the
user's or is generated again. -/
theorem diagrams_restore_subset {workspace : Workspace} {entry : Entry}
    (present : entry ∈ workspace.timeline.entries) :
    (workspace.restore entry).diagrams ⊆ workspace.diagrams := by
  have live : (workspace.restore entry).diagram = entry.diagram := by
    cases own : entry.override <;> simp [restore, regenerate, own]
  intro diagram member
  rw [diagrams, live, restore_timeline] at member
  rcases List.mem_cons.mp member with rfl | older
  · exact List.mem_cons_of_mem _ (List.mem_map_of_mem present)
  · exact List.mem_cons_of_mem _ older

/-- Going back adds no diagram: the one that is shown is that of an entry. -/
theorem diagrams_undo_subset (workspace : Workspace) :
    workspace.undo.2.diagrams ⊆ workspace.diagrams := by
  rcases undo_cases workspace with ⟨_, undone⟩ | ⟨entry, timeline, moved, undone⟩
  · rw [undone]
    exact List.Subset.refl _
  · obtain ⟨entries, -, -, onEntry⟩ := Timeline.undo?_eq_some moved
    have same : { workspace with timeline }.diagrams = workspace.diagrams := by
      simp [diagrams, entries]
    rw [undone, ← same]
    exact diagrams_restore_subset (List.mem_of_getElem? onEntry)

/-- Going forward adds no diagram: the one that is shown is that of an entry. -/
theorem diagrams_redo_subset (workspace : Workspace) :
    workspace.redo.2.diagrams ⊆ workspace.diagrams := by
  rcases redo_cases workspace with ⟨_, redone⟩ | ⟨entry, timeline, moved, redone⟩
  · rw [redone]
    exact List.Subset.refl _
  · obtain ⟨entries, -, -, onEntry⟩ := Timeline.redo?_eq_some moved
    have same : { workspace with timeline }.diagrams = workspace.diagrams := by
      simp [diagrams, entries]
    rw [redone, ← same]
    exact diagrams_restore_subset (List.mem_of_getElem? onEntry)

end Workspace

namespace Diagram

/-- The diagram in which a node was changed has no other ids, if the change keeps
them. -/
theorem ids_withNode {diagram edited : Diagram} {id : String} {change : Node → Node}
    (done : diagram.withNode id change = .ok (some edited))
    (keeps : ∀ node, (change node).id = node.id) : edited.ids = diagram.ids := by
  obtain ⟨nodes, changed, rfl⟩ := withNode_eq_some_iff.mp done
  simp [ids, map_id_of_changeNode? keeps changed]

/-- A diagram with fewer nodes and connections has fewer ids. -/
theorem ids_subset {diagram edited : Diagram} (nodes : edited.nodes ⊆ diagram.nodes)
    (edges : edited.edges ⊆ diagram.edges) : edited.ids ⊆ diagram.ids := by
  intro id member
  rcases List.mem_append.mp member with ofNode | ofEdge
  · exact List.mem_append_left _ (List.map_subset _ nodes ofNode)
  · obtain ⟨edge, present, inside⟩ := List.mem_flatMap.mp ofEdge
    exact List.mem_append_right _ (List.mem_flatMap.mpr ⟨edge, edges present, inside⟩)

/-- The ids after an edit were there before or are in the edit. Each edit names the
ids that it brings. -/
theorem ids_edit_subset {diagram edited : Diagram} {edit : Edit}
    (done : diagram.edit edit = .ok (some edited)) :
    edited.ids ⊆ diagram.ids ++ (Change.edit edit).ids := by
  cases edit with
  | addNode node =>
    obtain ⟨-, rfl⟩ := edit_addNode_eq_some_iff.mp done
    simp [ids, Change.ids]
  | removeNode id =>
    obtain ⟨-, rfl⟩ := edit_removeNode_eq_some_iff.mp done
    refine List.subset_append_of_subset_left _ (ids_subset ?_ ?_)
    · exact List.filter_subset_self _
    · exact List.filter_subset_self _
  | replaceNodes nodes =>
    cases done
    simp [ids, Change.ids]
  | replaceEdges edges =>
    cases done
    simp [ids, Change.ids]
  | setPayload id payload =>
    rw [ids_withNode done fun _ => rfl]
    exact List.subset_append_left ..
  | moveNode id position =>
    rw [ids_withNode done fun _ => rfl]
    exact List.subset_append_left ..
  | addEdge edge =>
    obtain ⟨-, rfl⟩ := edit_addEdge_eq_some_iff.mp done
    simp [ids, Change.ids]

end Diagram

/-- A workspace with fewer diagrams has fewer ids. -/
theorem Workspace.ids_subset {workspace other : Workspace}
    (fewer : other.diagrams ⊆ workspace.diagrams) : other.ids ⊆ workspace.ids := by
  intro id member
  obtain ⟨diagram, present, inside⟩ := List.mem_flatMap.mp member
  exact List.mem_flatMap.mpr ⟨diagram, fewer present, inside⟩

/-- The ids after a change were there before or are in the change, whether or not
the change was made. -/
theorem Workspace.mem_ids_apply {workspace : Workspace} {change : Change} {id : String}
    (member : id ∈ (workspace.apply change).2.ids) : id ∈ workspace.ids ∨ id ∈ change.ids := by
  obtain ⟨diagram, present, inside⟩ := List.mem_flatMap.mp member
  rcases mem_diagrams_apply present with older | ⟨edit, rfl, edited⟩
  · exact Or.inl (List.mem_flatMap.mpr ⟨diagram, older, inside⟩)
  · rcases List.mem_append.mp (Diagram.ids_edit_subset edited inside) with older | named
    · exact Or.inl (List.mem_flatMap.mpr ⟨workspace.diagram, List.mem_cons_self, older⟩)
    · exact Or.inr named

namespace Session

/-- The registry in which a new connection's id is made up: both ends have been met.
-/
def ready (session : Session) (source target : String) : Registry :=
  (session.registry.learn source).learn target

/-- The connection that is made next between two ids, if they are not connected yet.
-/
def nextEdge (session : Session) (source target : String) : Connection :=
  ⟨((session.ready source target).fresh "edge").1, source, target⟩

/-- What is answered when a connection was asked for: its id, if it was recorded. An
id that was made up for nothing stays known. -/
def connected (edge : Connection) (result : Except Refusal Bool × Session) :
    Option String × Session :=
  match result.1 with
  | .ok true => (some edge.id, result.2)
  | .ok false | .error _ => (none, result.2)

/-- The session does not depend on what is answered. -/
@[simp]
theorem connected_snd (edge : Connection) (result : Except Refusal Bool × Session) :
    (connected edge result).2 = result.2 := by
  rcases result with ⟨refusal | _ | _, session⟩ <;> rfl

/-- The ids of the next connection are known once its id was made up, so making the
change meets nothing new. -/
theorem knows_nextEdge (session : Session) (source target : String) :
    ∀ id ∈ (Change.edit (.addEdge (session.nextEdge source target))).ids,
      ((session.ready source target).fresh "edge").2.knows id = true := by
  have met (id : String) (known : (session.ready source target).knows id = true) :
      ((session.ready source target).fresh "edge").2.knows id = true :=
    Registry.knows_performAll_of_knows known [.make "edge"]
  intro id member
  simp only [Change.ids, nextEdge, List.mem_cons, List.not_mem_nil, or_false] at member
  rcases member with rfl | rfl | rfl
  · exact Registry.knows_fresh _ "edge"
  · exact met id (by simp [ready, Registry.knows_learn])
  · exact met id (by simp [ready, Registry.knows_learn])

/-- Making a change asks the registry for the ids in it, before the change is tried.
-/
theorem registry_apply (session : Session) (change : Change) :
    (session.apply change).2.registry = session.registry.performAll (change.ids.map .meet) :=
  Registry.learnAll_eq_performAll session.registry change.ids

/-- Adding a preset resource makes one id up. The change that adds its node meets
this id again, and by then it is known. -/
theorem registry_addResource (session : Session) (kind : Kind) (position : Position) :
    (session.addResource kind position).2.registry = (session.registry.fresh kind.tag).2 := by
  refine Registry.learnAll_of_knows ?_
  intro id member
  obtain rfl := List.mem_singleton.mp member
  exact Registry.knows_fresh session.registry kind.tag

/-- Connecting two ids meets them, makes one id up and asks the workspace for a
connection with it. The lemmas below read the workspace, the registry and the answer
off this equation. -/
theorem connect_eq (session : Session) (source target : String) :
    let edge := session.nextEdge source target
    let registry := ((session.ready source target).fresh "edge").2
    let made := session.workspace.apply (.edit (.addEdge edge))
    session.connect source target = connected edge (made.1, ⟨registry, made.2⟩) := by
  intro edge registry made
  have known : registry.learnAll (Change.edit (.addEdge edge)).ids = registry :=
    Registry.learnAll_of_knows (session.knows_nextEdge source target)
  have applied : ({ session with registry } : Session).apply (.edit (.addEdge edge)) =
      (made.1, ⟨registry, made.2⟩) := by
    simp [apply, known, made]
  exact congrArg (connected edge) applied

/-- The workspace after connecting two ids is the one that was asked for a
connection. -/
theorem workspace_connect (session : Session) (source target : String) :
    (session.connect source target).2.workspace =
      (session.workspace.apply (.edit (.addEdge (session.nextEdge source target)))).2 := by
  rw [connect_eq, connected_snd]

/-- The registry after connecting two ids has met them and made one id up, also if
there was a connection already. -/
theorem registry_connect (session : Session) (source target : String) :
    (session.connect source target).2.registry =
      ((session.ready source target).fresh "edge").2 := by
  rw [connect_eq, connected_snd]

/-- An id that is given was made up, and its connection was recorded. -/
theorem connect_eq_some {session : Session} {source target id : String}
    (given : (session.connect source target).1 = some id) :
    id = (session.nextEdge source target).id ∧
      (session.workspace.apply (.edit (.addEdge (session.nextEdge source target)))).1 =
        .ok true := by
  rw [connect_eq, connected] at given
  split at given
  · rename_i recorded
    exact ⟨(Option.some.inj given).symm, recorded⟩
  · cases given
  · cases given

/-- The registry after an operation is the one that did what the operation asks. It
ties runs of a session to the log of their ids. -/
theorem registry_operate (session : Session) (operation : Operation) :
    (session.operate operation).registry = session.registry.performAll operation.requests := by
  cases operation with
  | change change => exact registry_apply session change
  | addResource kind position => exact registry_addResource session kind position
  | addTagged tag position =>
    cases known : Kind.ofTag? tag with
    | none => simp [operate, addTagged, Operation.requests, known, Registry.performAll]
    | some kind =>
      simp only [operate, addTagged, Operation.requests, known]
      exact registry_addResource session kind position
  | connect source target => exact registry_connect session source target
  | undo => rfl
  | redo => rfl

/-- An id in the workspace after a change was there before or is known. -/
theorem mem_ids_apply {session : Session} {change : Change} {id : String}
    (member : id ∈ (session.apply change).2.workspace.ids) :
    id ∈ session.workspace.ids ∨ (session.apply change).2.registry.knows id = true := by
  rcases Workspace.mem_ids_apply member with older | named
  · exact Or.inl older
  · refine Or.inr ((Registry.knows_learnAll ..).trans ?_)
    simp [named]

/-- An id in the workspace after an operation was there before or is known. This is
the step that keeps a registry informed. -/
theorem mem_ids_operate {session : Session} {operation : Operation} {id : String}
    (member : id ∈ (session.operate operation).workspace.ids) :
    id ∈ session.workspace.ids ∨ (session.operate operation).registry.knows id = true := by
  have addResource {kind : Kind} {position : Position}
      (member : id ∈ (session.addResource kind position).2.workspace.ids) :
      id ∈ session.workspace.ids ∨
        (session.addResource kind position).2.registry.knows id = true :=
    mem_ids_apply member
  cases operation with
  | change change => exact mem_ids_apply member
  | addResource kind position => exact addResource member
  | addTagged tag position =>
    cases known : Kind.ofTag? tag with
    | none =>
      simp only [operate, addTagged, known] at member
      exact Or.inl member
    | some kind =>
      simp only [operate, addTagged, known] at member ⊢
      exact addResource member
  | connect source target =>
    rw [operate, workspace_connect] at member
    rcases Workspace.mem_ids_apply member with older | named
    · exact Or.inl older
    · rw [operate, registry_connect]
      exact Or.inr (session.knows_nextEdge source target id named)
  | undo => exact Or.inl (Workspace.ids_subset (Workspace.diagrams_undo_subset _) member)
  | redo => exact Or.inl (Workspace.ids_subset (Workspace.diagrams_redo_subset _) member)

/-- Do one operation after another. -/
def run (session : Session) (operations : List Operation) : Session :=
  operations.foldl operate session

/-- The edit that an operation asks for, if it asks for one. For a preset resource
and for a connection it depends on the session. -/
def edit? (session : Session) : Operation → Option Diagram.Edit
  | .change (.edit edit) => some edit
  | .addResource kind position => some (.addNode (Preset.place session.registry kind position).1)
  | .addTagged tag position =>
    (Kind.ofTag? tag).map fun kind => .addNode (Preset.place session.registry kind position).1
  | .connect source target => some (.addEdge (session.nextEdge source target))
  | .change (.overrideCode _) | .undo | .redo => none

/-- A diagram after an operation was there before, or is the live one edited as was
asked. -/
theorem mem_diagrams_operate {session : Session} {operation : Operation} {diagram : Diagram}
    (member : diagram ∈ (session.operate operation).workspace.diagrams) :
    diagram ∈ session.workspace.diagrams ∨
      ∃ edit, session.edit? operation = some edit ∧
        session.workspace.diagram.edit edit = .ok (some diagram) := by
  -- every operation but a move comes down to one change of the workspace
  have changed (change : Change) (member : diagram ∈ (session.workspace.apply change).2.diagrams)
      (asked : ∀ edit, change = .edit edit → session.edit? operation = some edit) :
      diagram ∈ session.workspace.diagrams ∨
        ∃ edit, session.edit? operation = some edit ∧
          session.workspace.diagram.edit edit = .ok (some diagram) := by
    rcases Workspace.mem_diagrams_apply member with older | ⟨edit, same, edited⟩
    · exact Or.inl older
    · exact Or.inr ⟨edit, asked edit same, edited⟩
  cases operation with
  | change change =>
    refine changed change member ?_
    rintro edit rfl
    rfl
  | addResource kind position =>
    refine changed (.edit (.addNode (Preset.place session.registry kind position).1)) member ?_
    rintro edit ⟨⟩
    rfl
  | addTagged tag position =>
    cases known : Kind.ofTag? tag with
    | none =>
      simp only [operate, addTagged, known] at member
      exact Or.inl member
    | some kind =>
      simp only [operate, addTagged, known] at member
      refine changed (.edit (.addNode (Preset.place session.registry kind position).1)) member ?_
      rintro edit ⟨⟩
      rw [edit?, known]
      rfl
  | connect source target =>
    rw [operate, workspace_connect] at member
    refine changed (.edit (.addEdge (session.nextEdge source target))) member ?_
    rintro edit ⟨⟩
    rfl
  | undo => exact Or.inl (Workspace.diagrams_undo_subset _ member)
  | redo => exact Or.inl (Workspace.diagrams_redo_subset _ member)

/-- What all diagrams have before an operation, they have after it, if the edit it
asks for keeps it. -/
theorem forall_diagrams_operate {session : Session} {operation : Operation}
    {Holds : Diagram → Prop} (all : ∀ diagram ∈ session.workspace.diagrams, Holds diagram)
    (keeps : ∀ edit edited, session.edit? operation = some edit →
      session.workspace.diagram.edit edit = .ok (some edited) → Holds edited) :
    ∀ diagram ∈ (session.operate operation).workspace.diagrams, Holds diagram := by
  intro diagram member
  rcases mem_diagrams_operate member with older | ⟨edit, asked, done⟩
  · exact all diagram older
  · exact keeps edit diagram asked done

/-- Each operation is allowed to be asked of the session as it is by then. What is
allowed may depend on what the earlier operations have done. -/
def Along (Allowed : Session → Operation → Prop) (session : Session) : List Operation → Prop
  | [] => True
  | operation :: rest => Allowed session operation ∧ Along Allowed (session.operate operation) rest

/-- Operations that are always allowed are allowed one after another. -/
theorem along_of_forall {Allowed : Operation → Prop} {operations : List Operation}
    (allowed : ∀ operation ∈ operations, Allowed operation) (session : Session) :
    session.Along (fun _ => Allowed) operations := by
  induction operations generalizing session with
  | nil => trivial
  | cons operation rest inductionHypothesis =>
    obtain ⟨first, others⟩ := List.forall_mem_cons.mp allowed
    exact ⟨first, inductionHypothesis others (session.operate operation)⟩

/-- What all diagrams have at first, they have after any operations that are
allowed, if edits which those ask for keep it. Undo and redo need no case of their
own: the diagrams that they bring back are among all diagrams. -/
theorem forall_diagrams_run {Holds : Diagram → Prop} {Allowed : Session → Operation → Prop}
    (keeps : ∀ {session operation edit edited}, Allowed session operation →
      session.edit? operation = some edit → Holds session.workspace.diagram →
      session.workspace.diagram.edit edit = .ok (some edited) → Holds edited)
    {session : Session} {operations : List Operation} (allowed : session.Along Allowed operations)
    (all : ∀ diagram ∈ session.workspace.diagrams, Holds diagram) :
    ∀ diagram ∈ (session.run operations).workspace.diagrams, Holds diagram := by
  induction operations generalizing session with
  | nil => exact all
  | cons operation rest inductionHypothesis =>
    obtain ⟨first, others⟩ := allowed
    refine inductionHypothesis others (forall_diagrams_operate all ?_)
    intro edit edited asked done
    exact keeps first asked (all _ List.mem_cons_self) done

end Session

/-- The only diagram of a new workspace is the empty one. -/
theorem Workspace.forall_diagrams_start {settings : WorkspaceSettings} {Holds : Diagram → Prop} :
    (∀ diagram ∈ (Workspace.start settings).diagrams, Holds diagram) ↔ Holds {} := by
  simp [Workspace.start, Workspace.diagrams, Timeline.start]

end CloudDiagram
