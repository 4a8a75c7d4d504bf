import CloudDiagram.Diagram.Basic
import CloudDiagram.Json.Record
import CloudDiagram.Json.Writer

/-!
# Diagrams as JSON text

Nodes, connections and diagrams are records. They are written as objects with
their fields in order and read in either form of a record. A node may lack its
position, and then it stands at the origin, or its payload, and then it has none
that makes sense. Every id, source and target that is read is met by the reading.
-/

namespace CloudDiagram

open Json Numeric

/-- An id. It is met as soon as its string has been read, so an id is learned even
if the text breaks off right behind it. -/
def readId (_depth : Nat) (text : List Char) : Reading (String × List Char) := do
  let (id, rest) ← .ofExcept (scanText text)
  Reading.meet id
  return (id, rest)

namespace Position

/-- What has been read of a position. A coordinate is empty until its key was seen.
-/
structure Draft where
  x : Option Binary64 := none
  y : Option Binary64 := none

/-- How a position is read. Both coordinates are required, and there are no defaults
for them. -/
def shape : Shape Draft Position where
  title := "Position"
  fields := [
    .ofReader "x" Draft.x (fun draft x => { draft with x := some x })
      (fun _ text => .ofExcept (scanDouble text)),
    .ofReader "y" Draft.y (fun draft y => { draft with y := some y })
      (fun _ text => .ofExcept (scanDouble text))]
  blank := {}
  complete draft :=
    match draft.x, draft.y with
    | none, _ => .error 0
    | some _, none => .error 1
    | some x, some y => .ok ⟨x, y⟩

/-- A position as a value. A coordinate that is not finite has no number and is
written as null, which is not read back. -/
def toValue (position : Position) : Value :=
  .object [("x", .ofBinary64 position.x), ("y", .ofBinary64 position.y)]

end Position

namespace Node

/-- What has been read of a node. The payload is kept as a value here, and is judged
only when the node is complete. -/
structure Draft where
  id : Option String := none
  position : Option Position := none
  payload : Option Value := none

/-- How a node is read. The id is required; the position and the payload are not. A
payload never makes the node a fault, since one that makes no sense is kept as it
is. -/
def shape : Shape Draft Node where
  title := "RawNode"
  fields := [
    .ofReader "id" Draft.id (fun draft id => { draft with id := some id }) readId,
    .ofReader "position" Draft.position
      (fun draft position => { draft with position := some position }) Position.shape.read,
    .ofReader "data" Draft.payload (fun draft payload => { draft with payload := some payload })
      readValue]
  blank := {}
  complete draft :=
    match draft.id with
    | none => .error 0
    | some id => .ok {
        id
        payload := Payload.ofValue (draft.payload.getD .null)
        position := draft.position.getD Position.origin }

/-- A node as a value. All three members are written, also a position at the origin.
-/
def toValue (node : Node) : Value :=
  .object [
    ("id", .string node.id), ("position", node.position.toValue), ("data", node.payload.toValue)]

/-- The node that a text describes, and all ids that were met in it on the way. -/
def ofText (text : String) : Reading Node := readWhole shape.read text

/-- The list of nodes that a text describes. One node that cannot be read makes the
whole list a fault, but its ids and those before it were met. -/
def listOfText (text : String) : Reading (List Node) := readWhole (readList shape.read) text

/-- A list of nodes as text, in their order, since the order of nodes means
something. -/
def listText (nodes : List Node) : String := (Value.array (nodes.map toValue)).text

end Node

namespace Connection

/-- What has been read of a connection. Its three members may come in any order. -/
structure Draft where
  id : Option String := none
  source : Option String := none
  target : Option String := none

/-- How a connection is read. The id and both ends are required, and each of them is
met as an id. -/
def shape : Shape Draft Connection where
  title := "Connection"
  fields := [
    .ofReader "id" Draft.id (fun draft id => { draft with id := some id }) readId,
    .ofReader "source" Draft.source
      (fun draft source => { draft with source := some source }) readId,
    .ofReader "target" Draft.target
      (fun draft target => { draft with target := some target }) readId]
  blank := {}
  complete draft :=
    match draft.id, draft.source, draft.target with
    | none, _, _ => .error 0
    | some _, none, _ => .error 1
    | some _, some _, none => .error 2
    | some id, some source, some target => .ok ⟨id, source, target⟩

/-- A connection as a value, its id first and then its ends. -/
def toValue (connection : Connection) : Value :=
  .object [
    ("id", .string connection.id), ("source", .string connection.source),
    ("target", .string connection.target)]

/-- The connection that a text describes, and all ids that were met in it on the
way. -/
def ofText (text : String) : Reading Connection := readWhole shape.read text

/-- The list of connections that a text describes. It is read like a list of nodes,
with nothing checked about the ends. -/
def listOfText (text : String) : Reading (List Connection) :=
  readWhole (readList shape.read) text

/-- A list of connections as text, in their order. -/
def listText (connections : List Connection) : String :=
  (Value.array (connections.map toValue)).text

end Connection

namespace Diagram

/-- What has been read of a diagram, each of the two lists as a whole. -/
structure Draft where
  nodes : Option (List Node) := none
  edges : Option (List Connection) := none

/-- How a diagram is read. Both lists are required, also where they are empty. -/
def shape : Shape Draft Diagram where
  title := "GraphSnapshot"
  fields := [
    .ofReader "nodes" Draft.nodes (fun draft nodes => { draft with nodes := some nodes })
      (readList Node.shape.read),
    .ofReader "edges" Draft.edges (fun draft edges => { draft with edges := some edges })
      (readList Connection.shape.read)]
  blank := {}
  complete draft :=
    match draft.nodes, draft.edges with
    | none, _ => .error 0
    | some _, none => .error 1
    | some nodes, some edges => .ok ⟨nodes, edges⟩

/-- A diagram as a value, the nodes first. -/
def toValue (diagram : Diagram) : Value :=
  .object [
    ("nodes", .array (diagram.nodes.map Node.toValue)),
    ("edges", .array (diagram.edges.map Connection.toValue))]

/-- The diagram that a text describes. Ids are met in the order of the text, so
those of the connections come first if the text has them first. -/
def ofText (text : String) : Reading Diagram := readWhole shape.read text

/-- A diagram as text. It is what is stored of a diagram, without its timeline. -/
def text (diagram : Diagram) : String := diagram.toValue.text

end Diagram

end CloudDiagram
