import CloudDiagram.Editor
import CloudDiagram.Proofs.Session.Operations

/-!
# What calls of the editor bring into the workspace

Payloads and positions come into the workspace by several calls: with a node, with a list of
nodes, with attributes that are set, with a move, and with a preset resource. A requirement that
every payload and every position meets when it comes in is met by all nodes of all diagrams in
the workspace after every call. The diagrams of entries count as well, since undo and redo bring
them back.
-/

namespace CloudDiagram

open Json

/-- What is required of the payloads and of the positions of nodes. A readable
payload has to meet it, because those of preset resources are. -/
structure Requirement where
  payload : Payload → Prop
  position : Position → Prop
  readable : ∀ (held : Payload) (kind : Kind), held.kind? = some kind → payload held

/-- A node meets a requirement if its payload and its position do. -/
def Node.Meets (node : Node) (requirement : Requirement) : Prop :=
  requirement.payload node.payload ∧ requirement.position node.position

variable {requirement : Requirement}

namespace Diagram

/-- All nodes meet the requirement; nothing is required of connections. -/
def Meets (diagram : Diagram) (requirement : Requirement) : Prop :=
  ∀ node ∈ diagram.nodes, node.Meets requirement

/-- The payloads and positions that an edit brings meet the requirement. What an
edit leaves in the diagram is not asked again. -/
def Edit.Meets (requirement : Requirement) : Edit → Prop
  | addNode node => node.Meets requirement
  | replaceNodes nodes => ∀ node ∈ nodes, node.Meets requirement
  | setPayload _ payload => requirement.payload payload
  | moveNode _ position => requirement.position position
  | removeNode _ | replaceEdges _ | addEdge _ => True

/-- Changing a node keeps the requirement met if the changed node meets it. The
other nodes are as they were. -/
theorem Meets.withNode {diagram edited : Diagram} (met : diagram.Meets requirement) {id : String}
    {change : Node → Node} (done : diagram.withNode id change = .ok (some edited))
    (keeps : ∀ node, node.Meets requirement → (change node).Meets requirement) :
    edited.Meets requirement := by
  obtain ⟨nodes, changed, rfl⟩ := withNode_eq_some_iff.mp done
  intro node member
  rcases mem_changeNode? changed member with kept | ⟨old, present, rfl⟩
  · exact met node kept
  · exact keeps old (met old present)

/-- An edit keeps the requirement met if what it brings meets it. Each node
afterwards is an old one, one that was brought, or an old one of which a part was
replaced. -/
theorem Meets.edit {diagram edited : Diagram} (met : diagram.Meets requirement) {edit : Edit}
    (brought : edit.Meets requirement) (done : diagram.edit edit = .ok (some edited)) :
    edited.Meets requirement := by
  cases edit with
  | addNode node =>
    obtain ⟨-, rfl⟩ := edit_addNode_eq_some_iff.mp done
    intro other member
    rcases List.mem_append.mp member with old | new
    · exact met other old
    · obtain rfl := List.mem_singleton.mp new
      exact brought
  | removeNode id =>
    obtain ⟨-, rfl⟩ := edit_removeNode_eq_some_iff.mp done
    intro node member
    exact met node (List.mem_of_mem_filter member)
  | replaceNodes nodes =>
    cases done
    exact brought
  | replaceEdges edges =>
    cases done
    exact met
  | setPayload id payload => exact met.withNode done fun _ held => ⟨brought, held.2⟩
  | moveNode id position => exact met.withNode done fun _ held => ⟨held.1, brought⟩
  | addEdge edge =>
    obtain ⟨-, rfl⟩ := edit_addEdge_eq_some_iff.mp done
    exact met

end Diagram

namespace Workspace

/-- All nodes in the live diagram and in those of all entries meet the requirement.
Entries are included because they can be brought back. -/
def Meets (workspace : Workspace) (requirement : Requirement) : Prop :=
  ∀ diagram ∈ workspace.diagrams, diagram.Meets requirement

/-- A change keeps the requirement met if the edit in it, if there is one, brings
what meets it. -/
theorem Meets.apply {workspace : Workspace} (met : workspace.Meets requirement) {change : Change}
    (brought : ∀ edit, change = .edit edit → edit.Meets requirement) :
    (workspace.apply change).2.Meets requirement := by
  intro diagram member
  rcases mem_diagrams_apply member with older | ⟨edit, asked, edited⟩
  · exact met diagram older
  · exact (met _ List.mem_cons_self).edit (brought edit asked) edited

/-- An edit of the live diagram keeps the requirement met if what it brings meets it. -/
theorem Meets.applyEdit {workspace : Workspace} (met : workspace.Meets requirement)
    {edit : Diagram.Edit} (brought : edit.Meets requirement) :
    (workspace.apply (.edit edit)).2.Meets requirement := by
  refine met.apply ?_
  rintro other ⟨⟩
  exact brought

/-- Going back keeps the requirement met, as it shows a diagram of an entry. -/
theorem Meets.undo {workspace : Workspace} (met : workspace.Meets requirement) :
    workspace.undo.2.Meets requirement :=
  fun diagram member => met diagram (workspace.diagrams_undo_subset member)

/-- Going forward keeps the requirement met, as it shows a diagram of an entry. -/
theorem Meets.redo {workspace : Workspace} (met : workspace.Meets requirement) :
    workspace.redo.2.Meets requirement :=
  fun diagram member => met diagram (workspace.diagrams_redo_subset member)

/-- A workspace starts without nodes, so it meets every requirement. -/
theorem meets_start (settings : WorkspaceSettings) :
    (Workspace.start settings).Meets requirement :=
  forall_diagrams_start.mpr fun _ none => nomatch none

end Workspace

namespace Session

/-- Adding a preset resource keeps the requirement met if its position meets it. Its
payload is readable and meets it anyway. -/
theorem meets_addTagged {session : Session} (met : session.workspace.Meets requirement)
    (tag : String) {position : Position} (placed : requirement.position position) :
    (session.addTagged tag position).2.workspace.Meets requirement := by
  cases known : Kind.ofTag? tag with
  | none =>
    rw [addTagged, known]
    exact met
  | some kind =>
    have made : (session.workspace.apply
        (.edit (.addNode (Preset.place session.registry kind position).1))).2.Meets requirement :=
      met.applyEdit ⟨requirement.readable _ kind (Preset.kind?_payload kind _), placed⟩
    rw [addTagged, known]
    exact made

/-- Connecting two ids keeps the requirement met, since it brings no node. -/
theorem meets_connect {session : Session} (met : session.workspace.Meets requirement)
    (source target : String) :
    (session.connect source target).2.workspace.Meets requirement := by
  rw [workspace_connect]
  exact met.applyEdit trivial

end Session

namespace Editor

/-- What the canvas may ask of the editor, other than to show something. The texts
are any texts, and so are the coordinates any doubles. -/
inductive Call where
  | addNode (text : String)
  | removeNode (id : String)
  | updateNodes (text : String)
  | updateEdges (text : String)
  | updateAttributes (id text : String)
  | moveNode (id : String) (position : Position)
  | addResource (tag : String) (position : Position)
  | connect (source target : String)
  | overrideCode (text : String)
  | undo
  | redo
deriving DecidableEq

/-- The session after a call, whatever was answered. -/
def call (session : Session) : Call → Session
  | .addNode text => (addNode session text).2
  | .removeNode id => (removeNode session id).2
  | .updateNodes text => (updateNodes session text).2
  | .updateEdges text => (updateEdges session text).2
  | .updateAttributes id text => (updateAttributes session id text).2
  | .moveNode id position => (moveNode session id position).2
  | .addResource tag position => (addResource session tag position).2
  | .connect source target => (connect session source target).2
  | .overrideCode text => overrideCode session text
  | .undo => session.undo.2
  | .redo => session.redo.2

/-- The session after one call after another. -/
def run (session : Session) (calls : List Call) : Session := calls.foldl call session

/-- The payloads and positions that a call brings meet the requirement. What cannot
be read brings nothing. -/
def Call.Meets (requirement : Requirement) : Call → Prop
  | addNode text => ∀ node, (Node.ofText text).value? = some node → node.Meets requirement
  | updateNodes text =>
    ∀ nodes, (Node.listOfText text).value? = some nodes → ∀ node ∈ nodes, node.Meets requirement
  | updateAttributes _ text =>
    ∀ value, (Value.ofText text).value? = some value →
      requirement.payload (Payload.ofValue value)
  | moveNode _ position | addResource _ position => requirement.position position
  | removeNode _ | updateEdges _ | connect _ _ | overrideCode _ | undo | redo => True

/-- A text that asks for an edit keeps the requirement met if what the edit brings
meets it. A text that cannot be read changes nothing. -/
theorem meets_applyReading {α : Type} {session : Session}
    (met : session.workspace.Meets requirement) {reading : Reading α} {edit : α → Diagram.Edit}
    (brought : ∀ value, reading.value? = some value → (edit value).Meets requirement) :
    (applyReading session reading fun value => .edit (edit value)).2.workspace.Meets
      requirement := by
  rw [applyReading]
  split
  · rename_i value read
    exact met.applyEdit (brought value read)
  · exact met

/-- A call keeps the requirement met if what it brings meets it. This is the step of
the induction over calls. -/
theorem meets_call {session : Session} (met : session.workspace.Meets requirement) {asked : Call}
    (brought : asked.Meets requirement) : (call session asked).workspace.Meets requirement := by
  cases asked with
  | addNode text => exact meets_applyReading met brought
  | updateNodes text => exact meets_applyReading met brought
  | updateEdges text => exact meets_applyReading met fun _ _ => trivial
  | updateAttributes id text => exact meets_applyReading met brought
  | removeNode id => exact met.applyEdit trivial
  | moveNode id position => exact met.applyEdit brought
  | overrideCode text =>
    have kept : (session.workspace.apply (.overrideCode text)).2.Meets requirement :=
      met.apply fun _ asked => nomatch asked
    exact kept
  | addResource tag position => exact Session.meets_addTagged met tag brought
  | connect source target => exact Session.meets_connect met source target
  | undo => exact met.undo
  | redo => exact met.redo

/-- Calls keep the requirement met if what each of them brings meets it. What was
brought by earlier calls and has left the diagram may come back from an entry, and
meets it too. -/
theorem meets_run {session : Session} (met : session.workspace.Meets requirement)
    {calls : List Call} (brought : ∀ asked ∈ calls, asked.Meets requirement) :
    (run session calls).workspace.Meets requirement := by
  induction calls generalizing session with
  | nil => exact met
  | cons asked calls inductionHypothesis =>
    rw [run, List.foldl_cons]
    exact inductionHypothesis (meets_call met (brought asked List.mem_cons_self))
      fun other member => brought other (.tail _ member)

end Editor

end CloudDiagram
