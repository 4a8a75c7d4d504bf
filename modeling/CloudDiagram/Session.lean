import CloudDiagram.Json.Reading
import CloudDiagram.Preset
import CloudDiagram.Workspace

/-!
# Sessions

A session is a workspace together with the registry of ids. Every id that reaches the
workspace, and every id that is merely asked for, has been seen by then, so an id that
the session makes up is new to everything the workspace holds or ever held.
-/

namespace CloudDiagram

/-- The ids in a change: those of the nodes, connections and ends that it names.
They are learned whether the change is accepted or not. -/
def Change.ids : Change → List String
  | edit (.addNode node) => [node.id]
  | edit (.removeNode id) => [id]
  | edit (.replaceNodes nodes) => nodes.map Node.id
  | edit (.replaceEdges edges) => edges.flatMap fun edge => [edge.id, edge.source, edge.target]
  | edit (.setPayload id _) => [id]
  | edit (.moveNode id _) => [id]
  | edit (.addEdge edge) => [edge.id, edge.source, edge.target]
  | overrideCode _ => []

/-- A workspace and the ids seen so far. The ids are kept beside the workspace and
not in it, since several workspaces may share them and undo does not take them back.
-/
structure Session where
  registry : Registry := {}
  workspace : Workspace
deriving DecidableEq

namespace Session

/-- A session with an empty workspace. The registry may have been used before, so
ids of earlier sessions are still known to it. -/
def start (settings : WorkspaceSettings) (registry : Registry) : Session :=
  { registry, workspace := .start settings }

/-- See an id, so that it is never made up later on. -/
def learn (session : Session) (id : String) : Session :=
  { session with registry := session.registry.learn id }

/-- See the ids of a reading, also of one that ended in a fault. A text is read from
the front, and what was read before the fault has been seen. -/
def hear {α : Type} (session : Session) (reading : Json.Reading α) : Session :=
  { session with registry := session.registry.learnAll reading.seen }

/-- Make a change. Its ids are learned in any case, also if the workspace refuses it
or has nothing to do. -/
def apply (session : Session) (change : Change) : Except Refusal Bool × Session :=
  let (outcome, workspace) := session.workspace.apply change
  (outcome, { registry := session.registry.learnAll change.ids, workspace })

/-- Add a preset resource. Its new id is used up even if it is refused, so the next
one gets another id. -/
def addResource (session : Session) (kind : Kind) (position : Position) :
    Except Refusal String × Session :=
  let (node, registry) := Preset.place session.registry kind position
  let (outcome, session) := { session with registry }.apply (.edit (.addNode node))
  (outcome.map fun _ => node.id, session)

/-- Add a preset resource of the kind that a tag denotes. A tag that denotes none is
refused, and no number is used up then. -/
def addTagged (session : Session) (tag : String) (position : Position) :
    Except Refusal String × Session :=
  match Kind.ofTag? tag with
  | some kind => session.addResource kind position
  | none => (.error (.unknownKind tag), session)

/-- Connect two ids by a connection with a new id, which is given unless they are
connected that way already. The number of the new id is used up in any case. -/
def connect (session : Session) (source target : String) : Option String × Session :=
  let (id, registry) := ((session.learn source).learn target).registry.fresh "edge"
  let (outcome, session) :=
    { session with registry }.apply (.edit (.addEdge ⟨id, source, target⟩))
  match outcome with
  | .ok true => (some id, session)
  | .ok false | .error _ => (none, session)

/-- Go back one entry. The registry stays as it is, so an id that undo takes out of
the diagram is not made up again. -/
def undo (session : Session) : Bool × Session :=
  let (moved, workspace) := session.workspace.undo
  (moved, { session with workspace })

/-- Go forward one entry. The registry stays as it is, as all ids that come back are
known to it. -/
def redo (session : Session) : Bool × Session :=
  let (moved, workspace) := session.workspace.redo
  (moved, { session with workspace })

end Session

end CloudDiagram
