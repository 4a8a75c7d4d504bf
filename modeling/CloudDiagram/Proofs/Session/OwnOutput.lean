import CloudDiagram.Proofs.Diagram.RoundTrip
import CloudDiagram.Proofs.Session.Calls
import CloudDiagram.Proofs.Workspace.SettingsText

/-!
# The editor and its own output

The canvas gets the nodes and connections as texts and gives texts back. A text that the editor
wrote itself should be accepted and change nothing. For connections this is so. For nodes there
are two reasons why it may not be.

The text is accepted exactly if all nodes are legible: some ways into the diagram are wider than
the way back. A coordinate that is given as a number may not be finite, and then it is written
as null. A payload that is given alone may nest two levels deeper than one in a list of nodes,
and one that is given with its node one level deeper. Calls that bring nothing of these two sorts
leave all nodes legible.

If the text is accepted, every double in the nodes is read again: each coordinate, and each one
in a payload that was not understood. The nodes are the same afterwards exactly if all of these
doubles read back. Nothing else changes, because every payload is read as it was written,
whichever way it came in.
-/

namespace CloudDiagram.Editor

open Json

/-- Nodes that can be read take the place of the nodes. Connections stay, also those
whose ends are nodes no longer. -/
theorem updateNodes_of_read (session : Session) {text : String} {nodes : List Node}
    (read : (Node.listOfText text).value? = some nodes) :
    (updateNodes session text).1 = true ∧
      (updateNodes session text).2.workspace.diagram =
        { session.workspace.diagram with nodes } := by
  rw [updateNodes, applyReading, read]
  constructor <;> rfl

/-- A text that cannot be read as nodes leaves the workspace as it was, with its
code and its timeline. -/
theorem updateNodes_of_refused (session : Session) {text : String}
    (refused : (Node.listOfText text).value? = none) :
    (updateNodes session text).1 = false ∧
      (updateNodes session text).2.workspace = session.workspace := by
  rw [updateNodes, applyReading, refused]
  constructor <;> rfl

/-- Connections that can be read take the place of the connections. -/
theorem updateEdges_of_read (session : Session) {text : String} {edges : List Connection}
    (read : (Connection.listOfText text).value? = some edges) :
    (updateEdges session text).1 = true ∧
      (updateEdges session text).2.workspace.diagram =
        { session.workspace.diagram with edges } := by
  rw [updateEdges, applyReading, read]
  constructor <;> rfl

/-- Connections and settings are read as they were written, whatever texts and
numbers they hold. An editor accepts the connections that it has written, and they
do not change its diagram. -/
theorem connections_and_settings_survive :
    (∀ edges : List Connection,
        (Connection.listOfText (Connection.listText edges)).outcome = .ok edges) ∧
      (∀ settings : WorkspaceSettings,
        (WorkspaceSettings.ofText settings.text).outcome = .ok settings) ∧
      ∀ session : Session,
        (updateEdges session (edgesText session)).1 = true ∧
          (updateEdges session (edgesText session)).2.workspace.diagram =
            session.workspace.diagram := by
  refine ⟨?_, ?_, ?_⟩
  · intro edges
    exact Reading.value?_eq_some_iff.mp (value?_listOfText_connections edges)
  · intro settings
    exact Reading.value?_eq_some_iff.mp settings.value?_ofText_text
  · intro session
    exact updateEdges_of_read session (value?_listOfText_connections _)

/-- Every payload is read as it was written. All calls meet this requirement, since
payloads come from values that were read and from presets. -/
def faithful : Requirement where
  payload := Payload.Faithful
  position _ := True
  readable _ _ := Payload.faithful_readable

/-- Every payload is read as it was written, also inside a node in a list, and every
coordinate is finite. Only some calls meet this requirement. -/
def legible : Requirement where
  payload held := held.Faithful ∧ held.toValue.nesting ≤ listedPayloadLimit
  position held := held.isFinite = true
  readable _ _ readable :=
    ⟨Payload.faithful_readable readable,
      ((Payload.within_readable readable).mono (by decide)).shallow⟩

/-- A list of nodes that is read is legible, as its payloads stood inside the
brackets of a list already. -/
theorem meets_legible_of_listOfText {text : String} {nodes : List Node}
    (read : (Node.listOfText text).value? = some nodes) : ∀ node ∈ nodes, node.Meets legible := by
  intro node member
  obtain ⟨⟨finite, shallow⟩, faithful⟩ := Node.legible_of_listOfText read node member
  exact ⟨⟨faithful, shallow⟩, finite⟩

/-- Every call brings only payloads that are read as they were written. A value that
was read is canonical, and attributes are written canonically. -/
theorem call_meets_faithful (asked : Call) : asked.Meets faithful := by
  cases asked with
  | addNode text =>
    intro node read
    exact ⟨(Node.legible_of_ofText read).2, trivial⟩
  | updateNodes text =>
    intro nodes read node member
    exact ⟨(Node.legible_of_listOfText read node member).2, trivial⟩
  | updateAttributes id text =>
    intro value read
    exact Payload.faithful_ofValue (Value.within_of_ofText read).canonical
  | moveNode _ _ | addResource _ _ | removeNode _ | updateEdges _ | connect _ _ | overrideCode _
  | undo | redo => trivial

/-- The call brings no coordinate that is not finite, and no payload that nests too
deep for a list of nodes. Calls that give lists of nodes as texts cannot bring
either. -/
def Call.Modest : Call → Prop
  | addNode text =>
    ∀ node, (Node.ofText text).value? = some node →
      node.payload.toValue.nesting ≤ listedPayloadLimit
  | updateAttributes _ text =>
    ∀ value, (Value.ofText text).value? = some value → value.nesting ≤ listedPayloadLimit
  | moveNode _ position | addResource _ position => position.isFinite = true
  | removeNode _ | updateNodes _ | updateEdges _ | connect _ _ | overrideCode _ | undo | redo =>
    True

/-- A modest call brings only what is legible, so it leaves all nodes legible if
they were. -/
theorem Call.Modest.meets_legible {asked : Call} (modest : asked.Modest) : asked.Meets legible := by
  cases asked with
  | addNode text =>
    intro node read
    obtain ⟨⟨finite, -⟩, faithful⟩ := Node.legible_of_ofText read
    exact ⟨⟨faithful, modest node read⟩, finite⟩
  | updateNodes text =>
    intro nodes read
    exact meets_legible_of_listOfText read
  | updateAttributes id text =>
    intro value read
    have canonical := (Value.within_of_ofText read).canonical
    have within : value.Within listedPayloadLimit := ⟨canonical, modest value read⟩
    exact ⟨Payload.faithful_ofValue canonical,
      (Payload.within_toValue_ofValue within (by decide)).shallow⟩
  | moveNode id position => exact modest
  | addResource tag position => exact modest
  | removeNode _ | updateEdges _ | connect _ _ | overrideCode _ | undo | redo => trivial

/-- A session whose payloads are all read as they were written accepts its own nodes
exactly if they are legible. Then their doubles are read again, and nothing else of
the diagram changes. If they are refused, nothing at all has changed. -/
theorem updateNodes_nodesText {session : Session} (payloads : session.workspace.Meets faithful) :
    ((updateNodes session (nodesText session)).1 = true ↔
        ∀ node ∈ session.workspace.diagram.nodes, node.Legible listedPayloadLimit) ∧
      ((updateNodes session (nodesText session)).1 = true →
        (updateNodes session (nodesText session)).2.workspace.diagram =
          { session.workspace.diagram with
            nodes := session.workspace.diagram.nodes.map Node.reread }) ∧
      ((updateNodes session (nodesText session)).1 = false →
        (updateNodes session (nodesText session)).2.workspace = session.workspace) := by
  have written := Node.value?_listOfText_listText fun node member =>
    (payloads _ List.mem_cons_self node member).1
  by_cases all : ∀ node ∈ session.workspace.diagram.nodes, node.Legible listedPayloadLimit
  · rw [if_pos all] at written
    obtain ⟨accepted, replaced⟩ := updateNodes_of_read session written
    refine ⟨iff_of_true accepted all, fun _ => replaced, fun refused => ?_⟩
    exact Bool.noConfusion (refused.symm.trans accepted)
  · rw [if_neg all] at written
    obtain ⟨refused, same⟩ := updateNodes_of_refused session written
    have notAccepted : ¬(updateNodes session (nodesText session)).1 = true := by
      intro accepted
      exact Bool.noConfusion (refused.symm.trans accepted)
    exact ⟨iff_of_false notAccepted all, fun accepted => absurd accepted notAccepted, fun _ => same⟩

/-- After any calls, the editor accepts the nodes that it has written exactly if all
of them are legible, which they are if the calls were modest. Then their doubles are
read again and nothing else of the diagram changes, so accepting leaves the nodes as
they were exactly if all of these doubles read back. If the text is refused, nothing
at all has changed.

Proof: whatever the calls bring are payloads that are read as they were written, by
induction over the calls. So the nodes are read node by node, each again or not at
all. -/
theorem accepts_own_nodes_iff (settings : String) (registry : Registry) (calls : List Call) :
    let session := run (start settings registry) calls
    let nodes := session.workspace.diagram.nodes
    let answer := updateNodes session (nodesText session)
    (answer.1 = true ↔ ∀ node ∈ nodes, node.Legible listedPayloadLimit) ∧
      ((∀ asked ∈ calls, asked.Modest) → answer.1 = true) ∧
      (answer.1 = true → answer.2.workspace.diagram =
        { session.workspace.diagram with nodes := nodes.map Node.reread }) ∧
      (answer.1 = false → answer.2.workspace = session.workspace) ∧
      (answer.1 = true ∧ answer.2.workspace.diagram.nodes = nodes ↔
        ∀ node ∈ nodes, node.Legible listedPayloadLimit ∧ ∀ x ∈ node.doubles, x.ReadsBack) := by
  intro session nodes answer
  have started (requirement : Requirement) :
      (start settings registry).workspace.Meets requirement := Workspace.meets_start _
  have payloads : session.workspace.Meets faithful :=
    meets_run (started faithful) fun asked _ => call_meets_faithful asked
  obtain ⟨accepted_iff, accepted, refused⟩ := updateNodes_nodesText payloads
  refine ⟨accepted_iff, ?_, accepted, refused, ?_⟩
  · intro modest
    have legibleNodes : session.workspace.Meets legible :=
      meets_run (started legible) fun asked member => (modest asked member).meets_legible
    rw [accepted_iff]
    intro node member
    obtain ⟨⟨-, shallow⟩, finite⟩ := legibleNodes _ List.mem_cons_self node member
    exact ⟨finite, shallow⟩
  · have unchanged_iff (yes : answer.1 = true) : answer.2.workspace.diagram.nodes = nodes ↔
        ∀ node ∈ nodes, ∀ x ∈ node.doubles, x.ReadsBack := by
      rw [accepted yes]
      exact Node.map_reread_eq_self_iff
    rw [and_congr_right unchanged_iff, accepted_iff, forall₂_and]

/-- Nodes whose payloads came with a text, as attributes and as a preset are accepted. -/
theorem accepts_own_nodes_after_modest_calls :
    let calls : List Call := [.addNode "\x7b\"id\":\"a\",\"data\":[[]]\x7d",
      .updateAttributes "a" "[[0]]", .addResource "ec2" ⟨.ofDecimal true ⟨5, -1⟩, .zero⟩]
    let session := run (start "" {}) calls
    (∀ asked ∈ calls, asked.Modest) ∧ (updateNodes session (nodesText session)).1 = true := by
  intro calls session
  have node : (Node.ofText "\x7b\"id\":\"a\",\"data\":[[]]\x7d").value? =
      some { id := "a", payload := .malformed (.array [.array []]) } := by decide +kernel
  have value : (Value.ofText "[[0]]").value? = some (.array [.array [.ofUInt64 0]]) := by
    decide +kernel
  have finite : Position.isFinite ⟨.ofDecimal true ⟨5, -1⟩, .zero⟩ = true := by decide +kernel
  have modest : ∀ asked ∈ calls, asked.Modest := by
    simp only [calls, List.forall_mem_cons]
    refine ⟨?_, ?_, finite, nofun⟩
    · intro read found
      obtain rfl := Option.some.inj (node.symm.trans found)
      decide
    · intro read found
      obtain rfl := Option.some.inj (value.symm.trans found)
      decide
  exact ⟨modest, (accepts_own_nodes_iff "" {} calls).2.1 modest⟩

/-- A text can bring a coordinate that does not read back. The calls are modest, so the own nodes
are accepted, and accepting them moves the node to `12.1`. -/
example :
    let session := run (start "" {}) [.addNode
      "\x7b\"id\":\"a\",\"position\":\x7b\"x\":12.100000000000002,\"y\":0\x7d\x7d"]
    let answer := updateNodes session (nodesText session)
    answer.1 = true ∧ answer.2.workspace.diagram.nodes =
      [{ id := "a", payload := .malformed .null, position := ⟨.ofDecimal false ⟨121, -1⟩, .zero⟩ }] ∧
      answer.2.workspace.diagram.nodes ≠ session.workspace.diagram.nodes := by
  decide +kernel

/-- A node that was moved to a coordinate that is no number is written, but the text
is refused. The coordinate is written as null, which is not read as a coordinate. -/
theorem own_nodes_refused :
    ¬∀ (settings : String) (registry : Registry) (calls : List Call),
      let session := run (start settings registry) calls
      (updateNodes session (nodesText session)).1 = true ∧
        (updateNodes session (nodesText session)).2.workspace.diagram.nodes =
          session.workspace.diagram.nodes := by
  intro accepted
  have refused : (updateNodes
      (run (start "" {}) [.addNode "\x7b\"id\":\"a\"\x7d", .moveNode "a" ⟨.nan, .zero⟩])
      (nodesText
        (run (start "" {}) [.addNode "\x7b\"id\":\"a\"\x7d", .moveNode "a" ⟨.nan, .zero⟩]))).1 =
      false := by
    decide +kernel
  exact Bool.noConfusion (refused.symm.trans (accepted "" {} _).1)

end CloudDiagram.Editor
