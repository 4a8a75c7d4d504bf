import CloudDiagram.Proofs.Diagram.Arcs
import CloudDiagram.Proofs.Workspace.Coherence

/-!
# What a change does and what it leaves alone

A recorded change touches what it names and nothing else. Adding appends, replacing a list
leaves the other list as it was, and a text of the user leaves both. Two changes look for an
id and differ where several nodes have it: an edit of a payload or a place takes the first of
them, while removal takes them all, together with exactly the connections that have the id at
one of their ends.

So after a removal nothing is left of the id. An end of a connection that stays is another
id, whose nodes stay too, and no connection dangles that did not dangle before.
-/

namespace CloudDiagram

namespace Diagram

/-- The first node of an id is changed, and the nodes around it are as they were.
Other nodes of the same id may come behind it, and these stay too. -/
def FirstChanged (id : String) (change : Node → Node) (nodes changed : List Node) : Prop :=
  ∃ front node back, nodes = front ++ node :: back ∧ (∀ other ∈ front, other.id ≠ id) ∧
    node.id = id ∧ changed = front ++ change node :: back

/-- Changing the first node of an id changes it where it stands. By induction on the
nodes: the search goes on past every node of another id and stops at the first one
that has it. -/
theorem firstChanged_of_changeNode? {id : String} {change : Node → Node}
    {nodes changed : List Node} (done : changeNode? id change nodes = some changed) :
    FirstChanged id change nodes changed := by
  induction nodes generalizing changed with
  | nil => cases done
  | cons node rest inductionHypothesis =>
    rw [changeNode?] at done
    split at done
    · rename_i found
      cases done
      exact ⟨[], node, rest, rfl, List.forall_mem_nil _, found, rfl⟩
    · rename_i other
      obtain ⟨tail, changedTail, rfl⟩ := Option.map_eq_some_iff.mp done
      obtain ⟨front, first, back, rfl, others, found, rfl⟩ := inductionHypothesis changedTail
      exact ⟨node :: front, first, back, rfl, List.forall_mem_cons.mpr ⟨other, others⟩, found, rfl⟩

end Diagram

/-- What a recorded change does to a diagram, said of the lists of nodes and
connections before and after it. A text of the user is put in place of the code and
leaves the diagram as it is. -/
def Change.Effect (before after : Diagram) : Change → Prop
  | .edit (.addNode node) =>
    after.nodes = before.nodes ++ [node] ∧ after.edges = before.edges
  | .edit (.removeNode id) =>
    after.nodes = before.nodes.filter (fun node => node.id ≠ id) ∧
      after.edges = before.edges.filter fun edge => edge.source ≠ id ∧ edge.target ≠ id
  | .edit (.replaceNodes nodes) => after.nodes = nodes ∧ after.edges = before.edges
  | .edit (.replaceEdges edges) => after.nodes = before.nodes ∧ after.edges = edges
  | .edit (.setPayload id payload) =>
    Diagram.FirstChanged id (fun node => { node with payload })
      before.nodes after.nodes ∧ after.edges = before.edges
  | .edit (.moveNode id position) =>
    Diagram.FirstChanged id (fun node => { node with position })
      before.nodes after.nodes ∧ after.edges = before.edges
  | .edit (.addEdge edge) =>
    after.nodes = before.nodes ∧ after.edges = before.edges ++ [edge]
  | .overrideCode _ => after.nodes = before.nodes ∧ after.edges = before.edges

namespace Diagram

/-- Where a node is changed, the connections stay. Connections name nodes by their
ids, and these do not change. -/
theorem firstChanged_of_withNode {diagram edited : Diagram} {id : String} {change : Node → Node}
    (done : diagram.withNode id change = .ok (some edited)) :
    FirstChanged id change diagram.nodes edited.nodes ∧ edited.edges = diagram.edges := by
  obtain ⟨nodes, changed, rfl⟩ := withNode_eq_some_iff.mp done
  exact ⟨firstChanged_of_changeNode? changed, rfl⟩

/-- An edited diagram shows the effect of the edit, with one case for each kind of
edit. Refused edits and edits that have nothing to do give no diagram. -/
theorem effect_of_edited {diagram edited : Diagram} {edit : Edit}
    (done : diagram.edit edit = .ok (some edited)) : (Change.edit edit).Effect diagram edited := by
  cases edit with
  | addNode node =>
    obtain ⟨-, rfl⟩ := edit_addNode_eq_some_iff.mp done
    exact ⟨rfl, rfl⟩
  | removeNode id =>
    obtain ⟨-, rfl⟩ := edit_removeNode_eq_some_iff.mp done
    refine ⟨rfl, List.filter_congr ?_⟩
    intro edge _
    simp [Connection.touches]
  | replaceNodes nodes =>
    cases done
    exact ⟨rfl, rfl⟩
  | replaceEdges edges =>
    cases done
    exact ⟨rfl, rfl⟩
  | setPayload id payload => exact firstChanged_of_withNode done
  | moveNode id position => exact firstChanged_of_withNode done
  | addEdge edge =>
    obtain ⟨-, rfl⟩ := edit_addEdge_eq_some_iff.mp done
    exact ⟨rfl, rfl⟩

section Removed

variable {before after : Diagram} {id : String}

/-- No node of a removed id is left, however many of them there were. -/
theorem id_ne_of_removed (removed : (Change.edit (.removeNode id)).Effect before after) :
    ∀ node ∈ after.nodes, node.id ≠ id := by
  intro node member
  rw [removed.1] at member
  exact of_decide_eq_true (List.mem_filter.mp member).2

/-- A connection that is left was there before and runs between other ids. One that
has the removed id at either of its ends is gone. -/
theorem mem_edges_of_removed (removed : (Change.edit (.removeNode id)).Effect before after)
    {edge : Connection} (member : edge ∈ after.edges) :
    edge ∈ before.edges ∧ edge.source ≠ id ∧ edge.target ≠ id := by
  rw [removed.2] at member
  obtain ⟨present, apart⟩ := List.mem_filter.mp member
  exact ⟨present, of_decide_eq_true apart⟩

/-- The nodes of another id are all left, also where several of them share it. -/
theorem mem_nodes_of_removed (removed : (Change.edit (.removeNode id)).Effect before after)
    {node : Node} (member : node ∈ before.nodes) (other : node.id ≠ id) : node ∈ after.nodes := by
  rw [removed.1]
  exact List.mem_filter.mpr ⟨member, decide_eq_true other⟩

/-- An id that nobody has after a removal is the removed one, or nobody had it
before. So the removal takes no other id away. -/
theorem unknown_of_removed (removed : (Change.edit (.removeNode id)).Effect before after)
    {other : String} (different : other ≠ id) (unknown : ∀ node ∈ after.nodes, node.id ≠ other) :
    ∀ node ∈ before.nodes, node.id ≠ other := by
  intro node member same
  have stays : node ∈ after.nodes := mem_nodes_of_removed removed member (same ▸ different)
  exact unknown node stays same

/-- A connection that is left dangles only if it dangled before. Its ends are other
ids than the removed one, and the nodes of these are still there. -/
theorem isDangling_of_removed (removed : (Change.edit (.removeNode id)).Effect before after)
    {edge : Connection} (member : edge ∈ after.edges)
    (dangling : (Links.ofLists after.nodes after.edges).isDangling edge = true) :
    (Links.ofLists before.nodes before.edges).isDangling edge = true := by
  obtain ⟨-, source, target⟩ := mem_edges_of_removed removed member
  rw [Links.isDangling_ofLists] at dangling ⊢
  exact dangling.imp (unknown_of_removed removed source) (unknown_of_removed removed target)

end Removed

end Diagram

namespace Workspace

/-- A recorded change shows its effect on the live diagram. To generate the code and
to record the entry changes neither nodes nor connections. -/
theorem effect_of_recorded {workspace next : Workspace} {change : Change}
    (recorded : workspace.apply change = (.ok true, next)) :
    change.Effect workspace.diagram next.diagram := by
  cases change with
  | edit edit =>
    obtain ⟨diagram, edited, rfl⟩ := eq_of_recorded recorded
    exact Diagram.effect_of_edited edited
  | overrideCode text =>
    cases recorded
    exact ⟨rfl, rfl⟩

/-- In every state that a new workspace can come to, a recorded change does to the
live diagram what it names and leaves the rest as it was: a removal takes all nodes
of the id and all connections at it, an edit of a payload or a place the first node
of the id. After a removal nothing is found under the id, no connection touches it,
and the connections that are left dangle only if they did before. -/
theorem change_keeps_to_its_effect (settings : WorkspaceSettings) (actions : List Action)
    (change : Change) :
    let workspace := (start settings).run actions
    let next := (workspace.apply change).2
    let before := workspace.diagram
    let after := next.diagram
    (workspace.apply change).1 = .ok true →
      change.Effect before after ∧
      ∀ id, change = .edit (.removeNode id) →
        after.node? id = none ∧ after.contains id = false ∧
        (∀ edge ∈ after.edges, edge.touches id = false) ∧
        ∀ edge ∈ after.edges, (Links.ofLists after.nodes after.edges).isDangling edge = true →
          edge ∈ before.edges ∧ (Links.ofLists before.nodes before.edges).isDangling edge = true := by
  intro workspace next before after answer
  have recorded : workspace.apply change = (.ok true, next) := Prod.ext answer rfl
  have effect : change.Effect before after := effect_of_recorded recorded
  refine ⟨effect, ?_⟩
  rintro id rfl
  have gone := Diagram.id_ne_of_removed effect
  refine ⟨?_, ?_, ?_, ?_⟩
  · simpa [Diagram.node?] using gone
  · simpa [Diagram.contains] using gone
  · intro edge member
    obtain ⟨-, source, target⟩ := Diagram.mem_edges_of_removed effect member
    simp [Connection.touches, source, target]
  · intro edge member dangling
    exact ⟨(Diagram.mem_edges_of_removed effect member).1,
      Diagram.isDangling_of_removed effect member dangling⟩

/-- Of three nodes two share an id, under which there are connections side by side,
back and forth and from the id to itself; the third node is connected to an id that
no node has. Moving the shared id moves one of the two nodes, and removing it takes
both of them and all connections but one. -/
theorem effects_on_shared_id :
    let node (id : String) : Node := { id, payload := .malformed .null }
    let nodes := [node "a", node "b", node "a"]
    let edges : List Connection :=
      [⟨"e1", "a", "b"⟩, ⟨"e2", "a", "b"⟩, ⟨"e3", "b", "a"⟩, ⟨"e4", "a", "a"⟩, ⟨"e5", "b", "y"⟩]
    let actions : List Action :=
      [.change (.edit (.replaceNodes nodes)), .change (.edit (.replaceEdges edges))]
    let away : Position := ⟨.nan, .zero⟩
    let workspace := (start {}).run actions
    let moved := workspace.apply (.edit (.moveNode "a" away))
    let removed := workspace.apply (.edit (.removeNode "a"))
    (moved.1 = .ok true ∧
      Change.Effect workspace.diagram moved.2.diagram (.edit (.moveNode "a" away)) ∧
      moved.2.diagram.nodes = [{ node "a" with position := away }, node "b", node "a"]) ∧
    removed.1 = .ok true ∧
      Change.Effect workspace.diagram removed.2.diagram (.edit (.removeNode "a")) ∧
      removed.2.diagram = ⟨[node "b"], [⟨"e5", "b", "y"⟩]⟩ ∧
      removed.2.diagram.node? "a" = none := by
  intro node nodes edges actions away
  refine ⟨⟨?_, ?_, ?_⟩, ?_, ?_, ?_, ?_⟩
  · decide +kernel
  · exact (change_keeps_to_its_effect {} actions _ (by decide +kernel)).1
  · decide +kernel
  · decide +kernel
  · exact (change_keeps_to_its_effect {} actions _ (by decide +kernel)).1
  · decide +kernel
  · exact ((change_keeps_to_its_effect {} actions _ (by decide +kernel)).2 "a" rfl).1

end Workspace

end CloudDiagram
