import CloudDiagram.Proofs.Diagnostic.Clean
import CloudDiagram.Proofs.Diagnostic.Report
import CloudDiagram.Proofs.Session.Operations

/-!
# Sound diagrams stay sound

A diagram is sound if its ids are distinct, no two of its connections are parallel and every
connection has nodes at both ends. Most of what is asked of a session keeps that by itself: a
new node is refused if its id is taken, a removed one takes the connections at it along, and a
connection is not made a second time. Only a list that replaces another one has to go with what
it is put beside, and only nodes may be connected.

Undo and redo bring an old diagram back. So the diagrams of all entries have to be sound, not
just the live one; they are, as each of them was live when it was recorded.
-/

namespace CloudDiagram

namespace Diagram

/-- Ids are distinct, no two connections are parallel, and both ends of every
connection are nodes. This is a diagram that nothing is wrong with; a list that is
put in place of another one may well break it, since the lists are taken as they
come. -/
structure Sound (diagram : Diagram) : Prop where
  distinctIds : (diagram.nodes.map Node.id).Nodup
  noParallels : (diagram.edges.map fun edge => (edge.source, edge.target)).Nodup
  connected : ∀ edge ∈ diagram.edges,
    edge.source ∈ diagram.nodes.map Node.id ∧ edge.target ∈ diagram.nodes.map Node.id

/-- What an edit brings goes with the rest of the diagram: a list that is replaced
makes a sound diagram with the other one, and a connection has nodes at both ends.
Nothing is asked of the other edits, as they are refused where they would do harm.
-/
def Edit.Fits (diagram : Diagram) : Edit → Prop
  | replaceNodes nodes => { diagram with nodes }.Sound
  | replaceEdges edges => { diagram with edges }.Sound
  | addEdge edge =>
    edge.source ∈ diagram.nodes.map Node.id ∧ edge.target ∈ diagram.nodes.map Node.id
  | addNode _ | removeNode _ | setPayload _ _ | moveNode _ _ => True

/-- No node has an id if and only if it is not among the ids. This is how the check
for taken ids is brought to the form in which soundness is stated. -/
theorem contains_eq_false_iff {diagram : Diagram} {id : String} :
    diagram.contains id = false ↔ id ∉ diagram.nodes.map Node.id := by
  simp [Diagram.contains]

/-- The empty diagram is sound. Every session starts with it. -/
theorem sound_empty : ({} : Diagram).Sound where
  distinctIds := List.nodup_nil
  noParallels := List.nodup_nil
  connected _ none := nomatch none

/-- Ids stay distinct where a node of a new id is added. The check for taken ids is
made before a node is added, so an edit that is carried out has this condition. -/
theorem nodup_ids_append {diagram : Diagram} (distinct : (diagram.nodes.map Node.id).Nodup)
    {node : Node} (new : diagram.contains node.id = false) :
    ((diagram.nodes ++ [node]).map Node.id).Nodup := by
  rw [List.map_append, List.map_singleton, ← List.concat_eq_append]
  exact .concat (contains_eq_false_iff.mp new) distinct

/-- A node of a new id may be added. The connections stay as they are, and each of
them still has its ends among the nodes. -/
theorem Sound.withNewNode {diagram : Diagram} (sound : diagram.Sound) {node : Node}
    (new : diagram.contains node.id = false) :
    { diagram with nodes := diagram.nodes ++ [node] }.Sound where
  distinctIds := nodup_ids_append sound.distinctIds new
  noParallels := sound.noParallels
  connected edge member := by
    obtain ⟨source, target⟩ := sound.connected edge member
    rw [List.map_append]
    exact ⟨List.mem_append_left _ source, List.mem_append_left _ target⟩

/-- Where a node is removed with the connections at it, the others still have their
ends. Were the connections kept, they would dangle. -/
theorem Sound.withoutNode {diagram : Diagram} (sound : diagram.Sound) (id : String) :
    Sound {
      nodes := diagram.nodes.filter fun node => node.id ≠ id
      edges := diagram.edges.filter fun edge => !edge.touches id } where
  distinctIds := sound.distinctIds.sublist (List.filter_sublist.map Node.id)
  noParallels := sound.noParallels.sublist (List.filter_sublist.map _)
  connected edge member := by
    obtain ⟨present, untouched⟩ := List.mem_filter.mp member
    obtain ⟨source, target⟩ := sound.connected edge present
    have stays {other : String} (inside : other ∈ diagram.nodes.map Node.id) (apart : other ≠ id) :
        other ∈ (diagram.nodes.filter fun node => node.id ≠ id).map Node.id := by
      obtain ⟨node, member, rfl⟩ := List.mem_map.mp inside
      exact List.mem_map_of_mem (List.mem_filter.mpr ⟨member, decide_eq_true apart⟩)
    simp only [Connection.touches, Bool.not_eq_true', Bool.or_eq_false_iff,
      decide_eq_false_iff_not] at untouched
    exact ⟨stays source untouched.1, stays target untouched.2⟩

/-- A node that keeps its id may be changed, in its place or its attributes, since
soundness speaks of ids and connections only. -/
theorem Sound.withNode {diagram edited : Diagram} (sound : diagram.Sound) {id : String}
    {change : Node → Node} (done : diagram.withNode id change = .ok (some edited))
    (keeps : ∀ node, (change node).id = node.id) : edited.Sound := by
  obtain ⟨nodes, changed, rfl⟩ := withNode_eq_some_iff.mp done
  have same : nodes.map Node.id = diagram.nodes.map Node.id := map_id_of_changeNode? keeps changed
  obtain ⟨distinctIds, noParallels, connected⟩ := sound
  rw [← same] at distinctIds connected
  exact ⟨distinctIds, noParallels, connected⟩

/-- Nodes that are not connected yet may be connected. The check for parallel
connections is made before one is added; that there are nodes at both ends is not
checked by the edit. -/
theorem Sound.withNewEdge {diagram : Diagram} (sound : diagram.Sound) {edge : Connection}
    (new : diagram.edges.any edge.parallel = false)
    (nodes : edge.source ∈ diagram.nodes.map Node.id ∧ edge.target ∈ diagram.nodes.map Node.id) :
    { diagram with edges := diagram.edges ++ [edge] }.Sound where
  distinctIds := sound.distinctIds
  noParallels := by
    have absent : (edge.source, edge.target) ∉
        diagram.edges.map fun edge => (edge.source, edge.target) := by
      intro present
      obtain ⟨other, member, same⟩ := List.mem_map.mp present
      obtain ⟨source, target⟩ := Prod.mk.inj same
      have parallel := List.any_eq_false.mp new other member
      simp [Connection.parallel, source, target] at parallel
    rw [List.map_append, List.map_singleton, ← List.concat_eq_append]
    exact .concat absent sound.noParallels
  connected := by
    simp only [List.forall_mem_append, List.forall_mem_singleton]
    exact ⟨sound.connected, nodes⟩

/-- An edit that fits keeps a diagram sound, with one case for each kind of edit. A
refused edit brings no diagram about, so nothing is said of it. -/
theorem Sound.edit {diagram edited : Diagram} (sound : diagram.Sound) {edit : Edit}
    (fits : edit.Fits diagram) (done : diagram.edit edit = .ok (some edited)) : edited.Sound := by
  cases edit with
  | addNode node =>
    obtain ⟨new, rfl⟩ := edit_addNode_eq_some_iff.mp done
    exact sound.withNewNode new
  | removeNode id =>
    obtain ⟨-, rfl⟩ := edit_removeNode_eq_some_iff.mp done
    exact sound.withoutNode id
  | replaceNodes nodes =>
    cases done
    exact fits
  | replaceEdges edges =>
    cases done
    exact fits
  | setPayload id payload => exact sound.withNode done fun _ => rfl
  | moveNode id position => exact sound.withNode done fun _ => rfl
  | addEdge edge =>
    obtain ⟨new, rfl⟩ := edit_addEdge_eq_some_iff.mp done
    exact sound.withNewEdge new fits

end Diagram

/-- In a sound diagram no id is repeated and no connection dangles, so neither is
reported, whatever the settings are and however many other findings there are. -/
theorem Diagram.Sound.not_reported {diagram : Diagram} (sound : diagram.Sound)
    (settings : GeneratorSettings) :
    ∀ diagnostic ∈ diagnose settings diagram.nodes diagram.edges,
      diagnostic.finding.rule ∉ ["duplicate-id", "dangling-edge"] := by
  have ends : ∀ edge ∈ diagram.edges, (∃ node ∈ diagram.nodes, node.id = edge.source) ∧
      ∃ node ∈ diagram.nodes, node.id = edge.target := by
    intro edge member
    obtain ⟨source, target⟩ := sound.connected edge member
    exact ⟨List.mem_map.mp source, List.mem_map.mp target⟩
  rw [← reported_eq_nil_iff, reported_diagnose,
    Rule.duplicateIds_eq_nil_iff.mpr sound.distinctIds,
    (Rule.fromRules_unreadableNodes diagram.nodes).reported_eq_nil (by decide),
    Rule.danglingEdges_eq_nil_iff.mpr ends,
    (Rule.fromRules_reversedContainments diagram.nodes diagram.edges).reported_eq_nil (by decide),
    (Rule.fromRules_placements settings _ diagram.nodes).reported_eq_nil (by decide),
    (Rule.fromRules_duplicateAddresses _ diagram.nodes).reported_eq_nil (by decide)]
  rfl

namespace Session

/-- What an operation brings goes with the live diagram. It is asked of the session
at the time of the operation, since a list that fits today may be wrong after the
next edit. -/
def Fits (session : Session) (operation : Operation) : Prop :=
  ∀ edit, session.edit? operation = some edit → edit.Fits session.workspace.diagram

/-- Ask of a new session whatever you like, as long as lists are replaced only by
such that go with the other list and only nodes are connected. The live diagram and
the diagrams of all entries are sound, and no repeated id and no dangling connection
is ever reported.

Proof: by induction on the operations, for the diagrams of all entries together with
the live one. An edit makes one new diagram from the live one, and undo and redo
make none. -/
theorem sound_after_fitting {settings : WorkspaceSettings} {registry : Registry}
    {operations : List Operation} (fits : (start settings registry).Along Fits operations) :
    let workspace := ((start settings registry).run operations).workspace
    workspace.diagram.Sound ∧ (∀ entry ∈ workspace.timeline.entries, entry.diagram.Sound) ∧
      ∀ diagnostic ∈ workspace.diagnostics,
        diagnostic.finding.rule ∉ ["duplicate-id", "dangling-edge"] := by
  intro workspace
  have all : ∀ diagram ∈ workspace.diagrams, diagram.Sound := by
    refine forall_diagrams_run ?_ fits (Workspace.forall_diagrams_start.mpr Diagram.sound_empty)
    intro session operation edit edited fits asked sound done
    exact sound.edit (fits edit asked) done
  have live : workspace.diagram.Sound := all _ List.mem_cons_self
  refine ⟨live, ?_, live.not_reported workspace.settings.generator⟩
  intro entry member
  exact all entry.diagram (List.mem_cons_of_mem _ (List.mem_map_of_mem member))

/-- Two nodes are put into an empty diagram and connected both ways, and one of them
is removed and brought back by undo, with both connections. -/
theorem sound_after_removal_undone :
    let node (id : String) : Node := { id, payload := .malformed .null }
    let operations : List Operation := [.change (.edit (.replaceNodes [node "a", node "b"])),
      .connect "a" "b", .connect "b" "a", .change (.edit (.removeNode "b")), .undo]
    let workspace := ((start {} {}).run operations).workspace
    (start {} {}).Along Fits operations ∧ workspace.diagram.edges.length = 2 ∧
      workspace.diagram.Sound := by
  intro node operations workspace
  have fits : (start {} {}).Along Fits operations := by
    refine ⟨?_, ?_, ?_, ?_, ?_, trivial⟩
    · rintro edit ⟨⟩
      exact ⟨by decide, by decide, nofun⟩
    · rintro edit ⟨⟩
      exact ⟨by decide +kernel, by decide +kernel⟩
    · rintro edit ⟨⟩
      exact ⟨by decide +kernel, by decide +kernel⟩
    · rintro edit ⟨⟩
      trivial
    · rintro edit ⟨⟩
  exact ⟨fits, by decide +kernel, (sound_after_fitting fits).1⟩

end Session

end CloudDiagram
