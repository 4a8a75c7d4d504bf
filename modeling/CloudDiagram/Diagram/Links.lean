import CloudDiagram.Diagram.Basic
import Std.Data.HashSet

/-!
# Who is connected to whom

Questions about placement are answered from two sets, built once for a diagram:
the ordered pairs that some connection joins, and the ids that some node has.
Parallel connections are one pair. A connection may have an end that is no node's
id; it joins its pair all the same, and it dangles.
-/

namespace CloudDiagram

/-- The pairs that are joined and the ids that exist. Both are sets, so asking for a
pair or an id does not go through the lists again. -/
structure Links where
  arcs : Std.HashSet (String × String)
  known : Std.HashSet String

namespace Links

/-- The links of a list of nodes and a list of connections. The order of the lists
and what stands in them twice is lost, and matters to none of the questions. -/
def ofLists (nodes : List Node) (edges : List Connection) : Links where
  arcs := Std.HashSet.ofList (edges.map fun edge => (edge.source, edge.target))
  known := Std.HashSet.ofList (nodes.map Node.id)

/-- Whether a connection runs from one id to the other. One that runs back does not
count. -/
def connects (links : Links) (source target : String) : Bool :=
  links.arcs.contains (source, target)

/-- The networks that an id is connected to, in the order of their nodes.
Connections from a network to the id do not count. -/
def networksOf (links : Links) (nodes : List Node) (source : String) :
    List (Node × Network) :=
  nodes.filterMap fun node =>
    match node.network? with
    | some network => if links.connects source node.id then some (node, network) else none
    | none => none

/-- The network that an id is placed in: the first one that it is connected to, in
the order of the nodes and not of the connections. -/
def containingNetwork? (links : Links) (nodes : List Node) (source : String) :
    Option Network :=
  (links.networksOf nodes source).head?.map Prod.snd

/-- Whether an end of a connection is no node's id. A node without readable payload
has an id as well. -/
def isDangling (links : Links) (connection : Connection) : Bool :=
  !links.known.contains connection.source || !links.known.contains connection.target

/-- A pair is joined exactly when some connection runs from its first id to its
second. It brings a question to the set back to the list of connections. -/
theorem connects_ofLists {nodes : List Node} {edges : List Connection} {source target : String} :
    (ofLists nodes edges).connects source target = true ↔
      ∃ edge ∈ edges, edge.source = source ∧ edge.target = target := by
  simp [connects, ofLists]

/-- An id is known exactly when some node has it. It brings a question to the set
back to the list of nodes. -/
theorem known_ofLists {nodes : List Node} {edges : List Connection} {id : String} :
    (ofLists nodes edges).known.contains id = true ↔ ∃ node ∈ nodes, node.id = id := by
  simp [ofLists]

end Links

end CloudDiagram
