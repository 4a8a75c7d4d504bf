import CloudDiagram.Diagram.Basic

/-!
# Edits of a diagram

An edit either changes a diagram, or leaves it as it is because there is nothing
to do, or is refused. Adding a node and changing one are refused when the id is
taken or unknown; replacing a list is never refused, whatever the list holds.
Removing a node removes every node of its id and every connection at it, while
changing a node changes the first one of its id only.
-/

namespace CloudDiagram

/-- Why something asked of a diagram was refused. There is no other reason, and a
refused request leaves the diagram as it is. -/
inductive Refusal where
  /-- A new node has an id that is taken. -/
  | duplicateId (id : String)
  /-- There is no node of the id. -/
  | unknownNode (id : String)
  /-- There is no resource of the kind. -/
  | unknownKind (tag : String)
deriving DecidableEq, Repr

/-- A refusal in words. An editor does not show it, and tells only that there was
one. -/
def Refusal.message : Refusal → String
  | duplicateId id => "a node with id `" ++ id ++ "` already exists"
  | unknownNode id => "no node with id `" ++ id ++ "`"
  | unknownKind tag => "unknown resource kind `" ++ tag ++ "`"

namespace Diagram

/-- A change that is asked of a diagram. The lists and payloads come with the edit,
so whether it is carried out depends on it and the diagram alone. -/
inductive Edit where
  /-- Append a node of a new id. -/
  | addNode (node : Node)
  /-- Remove the nodes of an id and the connections at it. -/
  | removeNode (id : String)
  /-- Replace the list of nodes. -/
  | replaceNodes (nodes : List Node)
  /-- Replace the list of connections. -/
  | replaceEdges (edges : List Connection)
  /-- Replace the payload of a node. -/
  | setPayload (id : String) (payload : Payload)
  /-- Move a node. -/
  | moveNode (id : String) (position : Position)
  /-- Append a connection, unless its ends are connected that way already. -/
  | addEdge (edge : Connection)
deriving DecidableEq

/-- Change the first node of an id, if there is one. The other nodes stay as they
are, also those of the same id behind it. -/
def changeNode? (id : String) (change : Node → Node) : List Node → Option (List Node)
  | [] => none
  | node :: rest =>
    if node.id = id then some (change node :: rest)
    else (changeNode? id change rest).map (node :: ·)

/-- Nothing can be changed exactly when no node has the id. The search goes through
the whole list before it gives up. -/
theorem changeNode?_eq_none_iff {id : String} {change : Node → Node} {nodes : List Node} :
    changeNode? id change nodes = none ↔ ∀ node ∈ nodes, node.id ≠ id := by
  induction nodes with
  | nil => simp [changeNode?]
  | cons node rest inductionHypothesis =>
    by_cases found : node.id = id
    · simp [changeNode?, found]
    · simp [changeNode?, found, inductionHypothesis]

/-- A change that keeps the ids of nodes keeps the list of ids. A new payload or
place is such a change. -/
theorem map_id_of_changeNode? {id : String} {change : Node → Node} {nodes changed : List Node}
    (keeps : ∀ node, (change node).id = node.id)
    (done : changeNode? id change nodes = some changed) :
    changed.map Node.id = nodes.map Node.id := by
  induction nodes generalizing changed with
  | nil => cases done
  | cons node rest inductionHypothesis =>
    simp only [changeNode?] at done
    split at done
    · cases done
      simp [keeps]
    · obtain ⟨tail, changedTail, rfl⟩ := Option.map_eq_some_iff.mp done
      simp [inductionHypothesis changedTail]

/-- A node after a change of one was there before, or is the changed one. So what
holds of all nodes and is kept by the change holds of them after it. -/
theorem mem_changeNode? {id : String} {change : Node → Node} {nodes changed : List Node}
    (done : changeNode? id change nodes = some changed) {node : Node} (member : node ∈ changed) :
    node ∈ nodes ∨ ∃ old ∈ nodes, node = change old := by
  induction nodes generalizing changed with
  | nil => cases done
  | cons head rest inductionHypothesis =>
    simp only [changeNode?] at done
    split at done
    · cases done
      rcases List.mem_cons.mp member with rfl | member
      · exact Or.inr ⟨head, List.mem_cons_self, rfl⟩
      · exact Or.inl (.tail _ member)
    · obtain ⟨tail, changedTail, rfl⟩ := Option.map_eq_some_iff.mp done
      rcases List.mem_cons.mp member with rfl | member
      · exact Or.inl List.mem_cons_self
      · rcases inductionHypothesis changedTail member with kept | ⟨old, present, same⟩
        · exact Or.inl (.tail _ kept)
        · exact Or.inr ⟨old, .tail _ present, same⟩

/-- The diagram with its first node of an id changed, or a refusal if there is no
such node. The answer is never that there is nothing to do. -/
def withNode (diagram : Diagram) (id : String) (change : Node → Node) :
    Except Refusal (Option Diagram) :=
  match changeNode? id change diagram.nodes with
  | some nodes => .ok (some { diagram with nodes })
  | none => .error (.unknownNode id)

/-- The edited diagram, or nothing if there is nothing to do, or the refusal.
Whether a new node or connection is there already is checked here; what a replaced
list holds is not. -/
def edit (diagram : Diagram) : Edit → Except Refusal (Option Diagram)
  | .addNode node =>
    if diagram.contains node.id then .error (.duplicateId node.id)
    else .ok (some { diagram with nodes := diagram.nodes ++ [node] })
  | .removeNode id =>
    if diagram.contains id then
      .ok (some {
        nodes := diagram.nodes.filter fun node => node.id ≠ id
        edges := diagram.edges.filter fun edge => !edge.touches id })
    else .ok none
  | .replaceNodes nodes => .ok (some { diagram with nodes })
  | .replaceEdges edges => .ok (some { diagram with edges })
  | .setPayload id payload => diagram.withNode id fun node => { node with payload }
  | .moveNode id position => diagram.withNode id fun node => { node with position }
  | .addEdge edge =>
    if diagram.edges.any edge.parallel then .ok none
    else .ok (some { diagram with edges := diagram.edges ++ [edge] })

/-- A diagram with a changed node is the old one with the changed list of nodes, and
there is one exactly if the node is found. -/
theorem withNode_eq_some_iff {diagram edited : Diagram} {id : String} {change : Node → Node} :
    diagram.withNode id change = .ok (some edited) ↔
      ∃ nodes, changeNode? id change diagram.nodes = some nodes ∧
        { diagram with nodes } = edited := by
  cases changed : changeNode? id change diagram.nodes <;> simp [withNode, changed]

/-- Adding a node appends it, if its id is not taken. With the next two facts, this
opens up the edits that are not carried out in every diagram. -/
theorem edit_addNode_eq_some_iff {diagram edited : Diagram} {node : Node} :
    diagram.edit (.addNode node) = .ok (some edited) ↔
      diagram.contains node.id = false ∧
        { diagram with nodes := diagram.nodes ++ [node] } = edited := by
  cases taken : diagram.contains node.id <;> simp [edit, taken]

/-- Removing the nodes of an id that there is leaves the others and the connections
that do not touch it, in their order. -/
theorem edit_removeNode_eq_some_iff {diagram edited : Diagram} {id : String} :
    diagram.edit (.removeNode id) = .ok (some edited) ↔
      diagram.contains id = true ∧
        { nodes := diagram.nodes.filter fun node => node.id ≠ id
          edges := diagram.edges.filter fun edge => !edge.touches id } = edited := by
  cases present : diagram.contains id <;> simp [edit, present]

/-- Adding a connection appends it, if its ends are not connected that way. One in
the opposite direction does not keep it from being added. -/
theorem edit_addEdge_eq_some_iff {diagram edited : Diagram} {edge : Connection} :
    diagram.edit (.addEdge edge) = .ok (some edited) ↔
      diagram.edges.any edge.parallel = false ∧
        { diagram with edges := diagram.edges ++ [edge] } = edited := by
  cases connected : diagram.edges.any edge.parallel <;> simp [edit, connected]

end Diagram

end CloudDiagram
