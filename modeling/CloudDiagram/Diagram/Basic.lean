import CloudDiagram.Numeric.Binary64
import CloudDiagram.Resource.Payload

/-!
# Diagrams

A diagram is a list of nodes and a list of connections between them. The order of
the nodes is the order in which the user placed them; it decides the order of the
code and which of several networks an instance sits in. Nothing forces the ids to
be distinct or the ends of a connection to exist: the linter reports such
diagrams, and the other parts of the library treat them all the same.
-/

namespace CloudDiagram

open Numeric

/-- Where a node is drawn. The generated code does not depend on it, but it is
written and read with the node. -/
structure Position where
  x : Binary64
  y : Binary64
deriving DecidableEq, Repr

/-- The place where a node without a position is drawn, which is the default when a
node is read. -/
def Position.origin : Position := ⟨.zero, .zero⟩

/-- A resource on the canvas. Its payload may make no sense, and is kept all the
same, so that a diagram is never lost for one bad node. -/
structure Node where
  id : String
  payload : Payload
  position : Position := Position.origin
deriving DecidableEq

namespace Node

/-- The kind of a node whose payload is readable; none for a node that is left out
of the code. -/
def kind? (node : Node) : Option Kind := node.payload.kind?

/-- The network that a node describes, if it does. Only networks are places for
instances. -/
def network? (node : Node) : Option Network := node.payload.network?

end Node

/-- A directed connection: its source sits inside, or is attached to, its target.
The ends are ids, and nothing says that there are nodes of them. -/
structure Connection where
  id : String
  source : String
  target : String
deriving DecidableEq, Repr

namespace Connection

/-- Whether an end of the connection is the node of the given id. A removal of the
id takes the connection along if it is so. -/
def touches (connection : Connection) (id : String) : Bool :=
  connection.source = id || connection.target = id

/-- Whether two connections run between the same ends in the same direction. Their
own ids do not matter, so a connection is not made twice under two ids. -/
def parallel (first second : Connection) : Bool :=
  first.source = second.source && first.target = second.target

end Connection

/-- Nodes and connections at one moment. This is what an entry of the timeline holds
and what code is generated from. -/
structure Diagram where
  nodes : List Node := []
  edges : List Connection := []
deriving DecidableEq

namespace Diagram

/-- The diagram without nodes and connections, with which every workspace starts. -/
def empty : Diagram := {}

/-- Whether there is nothing in the diagram. Connections may be left when all nodes
are gone, so both lists are asked. -/
def isEmpty (diagram : Diagram) : Bool := diagram.nodes.isEmpty && diagram.edges.isEmpty

/-- The first node of an id. Later nodes of the same id are not found by it. -/
def node? (diagram : Diagram) (id : String) : Option Node :=
  diagram.nodes.find? fun node => node.id = id

/-- Whether a node has the id. An id that is only an end of a connection does not
count. -/
def contains (diagram : Diagram) (id : String) : Bool :=
  diagram.nodes.any fun node => node.id = id

end Diagram

end CloudDiagram
