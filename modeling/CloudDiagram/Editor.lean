import CloudDiagram.Diagram.Wire
import CloudDiagram.Session

/-!
# The editor

The editor offers a session to a canvas that speaks in texts. Nodes, connections
and payloads come as JSON text, and so do answers that are more than a word. A text
that cannot be read and a change that is refused are answered alike, by `false` or
the empty text, and leave the diagram, its code and the timeline as they were.

Code can also be generated from two texts without an editor; then the answer says
what was wrong.
-/

namespace CloudDiagram.Editor

open Json

/-- An editor with an empty diagram. Settings that are blank or cannot be read are
the defaults, so a canvas always gets an editor. -/
def start (settings : String) (registry : Registry) : Session :=
  .start (.ofTextOrDefault settings) registry

/-- Whether a change was accepted and did something. A canvas is not told why a
change was refused, nor a refusal from a change that had nothing to do. -/
def accepted : Except Refusal Bool → Bool
  | .ok recorded => recorded
  | .error _ => false

/-- Make the change that a reading asks for, if it could be read. The ids in the
text are learned in any case, those before the fault if there is one. -/
def applyReading {α : Type} (session : Session) (reading : Reading α) (change : α → Change) :
    Bool × Session :=
  match reading.value? with
  | some value =>
    let (outcome, session) := (session.hear reading).apply (change value)
    (accepted outcome, session)
  | none => (false, session.hear reading)

/-- Append the node of a text. It is refused if the text cannot be read or the id is
taken. -/
def addNode (session : Session) (text : String) : Bool × Session :=
  applyReading session (Node.ofText text) fun node => .edit (.addNode node)

/-- Remove the nodes of an id and their connections. The answer is `false` if no
node has it. -/
def removeNode (session : Session) (id : String) : Bool × Session :=
  let (outcome, session) := session.apply (.edit (.removeNode id))
  (accepted outcome, session)

/-- Replace the nodes by those of a text, which may have any ids. The connections
stay, also those whose ends are gone then. -/
def updateNodes (session : Session) (text : String) : Bool × Session :=
  applyReading session (Node.listOfText text) fun nodes => .edit (.replaceNodes nodes)

/-- Replace the connections by those of a text, which may have any ends. The nodes
stay as they are. -/
def updateEdges (session : Session) (text : String) : Bool × Session :=
  applyReading session (Connection.listOfText text) fun edges => .edit (.replaceEdges edges)

/-- Replace the payload of a node by that of a text. The text may be any JSON value:
one that makes no sense as a payload is kept as a malformed one. -/
def updateAttributes (session : Session) (id text : String) : Bool × Session :=
  applyReading session (Value.ofText text) fun value =>
    .edit (.setPayload id (Payload.ofValue value))

/-- Move a node. Its place has no part in the code, but the move is recorded like
any change. -/
def moveNode (session : Session) (id : String) (position : Position) : Bool × Session :=
  let (outcome, session) := session.apply (.edit (.moveNode id position))
  (accepted outcome, session)

/-- Add a preset resource: its new id, or the empty text if the tag denotes no kind.
-/
def addResource (session : Session) (tag : String) (position : Position) : String × Session :=
  let (outcome, session) := session.addTagged tag position
  (outcome.toOption.getD "", session)

/-- Connect two ids: the new connection's id, or the empty text if they are
connected that way already. There need not be nodes of these ids. -/
def connect (session : Session) (source target : String) : String × Session :=
  let (id, session) := session.connect source target
  (id.getD "", session)

/-- Show a text in place of the code, and record it. The diagram is left as it is.
-/
def overrideCode (session : Session) (text : String) : Session :=
  (session.apply (.overrideCode text)).2

/-- The nodes as text, in the form in which a list of nodes is taken. -/
def nodesText (session : Session) : String := Node.listText session.workspace.diagram.nodes

/-- The connections as text, in the form in which a list of connections is taken. -/
def edgesText (session : Session) : String := Connection.listText session.workspace.diagram.edges

/-- The findings about the diagram as text. They are only shown, so this text is
never read. -/
def diagnosticsText (session : Session) : String :=
  Diagnostic.listText session.workspace.diagnostics

/-- The code of the diagram that two texts describe, or what was wrong with the
first of them that cannot be read. The nodes come first, so their fault is the one
that is told if there are two. -/
def codeOfTexts (nodesText edgesText : String) : Except String String :=
  match (Node.listOfText nodesText).outcome with
  | .error fault => .error ("nodes: " ++ fault.message nodesText)
  | .ok nodes =>
    match (Connection.listOfText edgesText).outcome with
    | .error fault => .error ("edges: " ++ fault.message edgesText)
    | .ok edges => .ok (Terraform.generate {} nodes edges)

/-- The code of two texts, or the error, as an answer in JSON text. It needs no
editor, takes the default settings and remembers nothing. -/
def generate (nodesText edgesText : String) : String :=
  match codeOfTexts nodesText edgesText with
  | .ok code => (Value.object [("code", .string code), ("ok", .bool true)]).text
  | .error message => (Value.object [("error", .string message), ("ok", .bool false)]).text

end CloudDiagram.Editor
