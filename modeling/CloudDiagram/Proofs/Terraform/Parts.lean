import CloudDiagram.Proofs.Diagnostic.Report
import CloudDiagram.Proofs.Terraform.Dependence
import CloudDiagram.Proofs.Workspace.Coherence

/-!
# Code in parts

What a node adds to the code depends on the rest of the diagram only through the networks
that its id is joined to, and only if it is an instance. So the nodes of a diagram may be
cut in two where no connection leads from an instance on the one side to a network on the
other: the code of the whole is that of the two sides, one after the other.

Each side is given all connections. Those that lead across the cut, between nodes of other
kinds or the other way round, dangle there and change nothing, and it does not matter
whether an id stands on both sides. A new node is a side of its own behind all others.
-/

namespace CloudDiagram

namespace Terraform

/-- No connection leads from an instance among the first nodes to a network among
the second. Connections of any other kind may lead across. -/
def Apart (edges : List Connection) (first second : List Node) : Prop :=
  ∀ machine ∈ first, machine.kind? = some .compute →
    ∀ node ∈ second, node.kind? = some .network → ¬Joins edges machine.id node.id

instance (edges : List Connection) (first second : List Node) :
    Decidable (Apart edges first second) :=
  inferInstanceAs (Decidable (∀ machine ∈ first, machine.kind? = some .compute →
    ∀ node ∈ second, node.kind? = some .network → ¬Joins edges machine.id node.id))

section

variable {nodes others first second : List Node} {edges otherEdges : List Connection}

/-- Networks are found on the one side and then on the other. Of two networks that
an instance may sit in, the one on the first side is found first. -/
theorem networkTargets_append (first second : List Node) (edges : List Connection) (id : String) :
    networkTargets (first ++ second) edges id =
      networkTargets first edges id ++ networkTargets second edges id :=
  List.filter_append ..

/-- An instance is joined to no network among nodes that are apart from it, so it is
placed as if these were not there. -/
theorem Apart.networkTargets_eq_nil (apart : Apart edges first second) {machine : Node}
    (member : machine ∈ first) (compute : machine.kind? = some .compute) :
    networkTargets second edges machine.id = [] := by
  refine List.filter_eq_nil_iff.mpr ?_
  intro node among found
  obtain ⟨network, joined⟩ := of_decide_eq_true found
  exact apart machine member compute node among network joined

/-- Among the same networks an instance is placed in the same one, since it is
placed in the first of them. -/
theorem placedIn_congr (settings : GeneratorSettings) {id : String}
    (targets : networkTargets nodes edges id = networkTargets others otherEdges id) :
    placedIn settings nodes edges id = placedIn settings others otherEdges id := by
  rw [placedIn, placedIn, targets]

/-- A node adds the same to the code of two diagrams, unless it is an instance that
is joined to other networks. -/
theorem nodeCode_congr (settings : GeneratorSettings) {node : Node}
    (targets : node.kind? = some .compute →
      networkTargets nodes edges node.id = networkTargets others otherEdges node.id) :
    nodeCode settings nodes edges node = nodeCode settings others otherEdges node := by
  have block : block? settings (placedIn settings nodes edges) node =
      block? settings (placedIn settings others otherEdges) node :=
    block?_congr settings rfl rfl fun compute => placedIn_congr settings (targets compute)
  rw [nodeCode, nodeCode, networkName_ofLists, networkName_ofLists, block]

/-- The code of two lists of nodes that are apart is the code of the one and then
that of the other. Each node finds the same networks in the whole as on its own
side. -/
theorem generate_append (settings : GeneratorSettings) (forth : Apart edges first second)
    (back : Apart edges second first) :
    generate settings (first ++ second) edges =
      generate settings first edges ++ generate settings second edges := by
  have front : ∀ node ∈ first,
      nodeCode settings (first ++ second) edges node = nodeCode settings first edges node := by
    intro node member
    refine nodeCode_congr settings fun compute => ?_
    rw [networkTargets_append, forth.networkTargets_eq_nil member compute, List.append_nil]
  have rear : ∀ node ∈ second,
      nodeCode settings (first ++ second) edges node = nodeCode settings second edges node := by
    intro node member
    refine nodeCode_congr settings fun compute => ?_
    rw [networkTargets_append, back.networkTargets_eq_nil member compute, List.nil_append]
  rw [generate_eq_join, List.map_append, String.join_append, List.map_congr_left front,
    List.map_congr_left rear, ← generate_eq_join, ← generate_eq_join]

end

end Terraform

namespace Workspace

open Terraform

/-- Two lists of nodes, with whatever connections, have as code that of the one and
then that of the other, if no connection leads from an instance in one of them to a
network in the other. So where the code of a workspace is generated, a node of a new
id extends it at its end and nowhere else, with the code of that node alone, if no
connection leads from it to a network and, should it be a network itself, none leads
to it.

Proof: the new node is a side of its own. That the code shown before was generated
holds in every workspace that can be reached, and adding the node generates it
again. -/
theorem independent_parts_in_code :
    (∀ (settings : GeneratorSettings) (first second : List Node) (edges : List Connection),
      Apart edges first second → Apart edges second first →
        generate settings (first ++ second) edges =
          generate settings first edges ++ generate settings second edges) ∧
    ∀ (settings : WorkspaceSettings) (actions : List Action) (node : Node),
      let workspace := (start settings).run actions
      let edges := workspace.diagram.edges
      workspace.overridden = false → workspace.diagram.contains node.id = false →
        (node.kind? = some .network → ∀ edge ∈ edges, edge.target ≠ node.id) →
        (∀ network ∈ workspace.diagram.nodes, network.kind? = some .network →
          ¬Joins edges node.id network.id) →
        ∃ after, workspace.apply (.edit (.addNode node)) = (.ok true, after) ∧
          after.overridden = false ∧
          after.code = workspace.code ++ generate settings.generator [node] edges := by
  refine ⟨fun settings _ _ _ => generate_append settings, ?_⟩
  intro settings actions node workspace edges generated new noneIn noneOut
  have kept : workspace.settings = settings := run_settings (start settings) actions
  have coherent : workspace.Coherent := (start_coherent settings).run actions
  have code := coherent.current generated
  have edited := Diagram.edit_addNode_eq_some_iff.mpr ⟨new, rfl⟩
  have recorded := apply_of_edited edited
  have forth : Apart edges workspace.diagram.nodes [node] := by
    rintro machine - - network among kind ⟨edge, member, -, target⟩
    obtain rfl := List.mem_singleton.mp among
    exact noneIn kind edge member target
  have back : Apart edges [node] workspace.diagram.nodes := by
    intro machine among _
    obtain rfl := List.mem_singleton.mp among
    exact noneOut
  refine ⟨_, recorded, rfl, ?_⟩
  rw [code_of_recorded recorded, code, kept]
  exact generate_append settings.generator forth back

/-- The two sides share two ids, one of which is a network's on the one side and a bucket's on the
other. A network is connected to an instance across the cut, and that instance to a bucket and to
an id that no node has. Then a second network is drawn beside the one side, where a text of the
user has just been taken back. -/
theorem independent_parts_with_shared_ids :
    let network (id name : String) : Node :=
      { id, payload := .network { name, cidrBlock := "10.0.0.0/16" } }
    let machine (id : String) : Node :=
      { id, payload := .compute { instanceType := "t2.micro", machineImage := "ami-1" } }
    let bucket (id : String) : Node := { id, payload := .storage { bucketName := "logs" } }
    let first : List Node := [machine "c", network "n" "prod", bucket "x"]
    let second : List Node := [bucket "x", machine "d", bucket "n"]
    let edges : List Connection :=
      [⟨"e1", "c", "n"⟩, ⟨"e2", "n", "d"⟩, ⟨"e3", "d", "x"⟩, ⟨"e4", "d", "y"⟩, ⟨"e5", "m", "c"⟩]
    let actions : List Action := [.change (.edit (.replaceNodes first)),
      .change (.edit (.replaceEdges edges)), .change (.overrideCode "mine"), .undo]
    let settings : WorkspaceSettings := {}
    let workspace := (start settings).run actions
    Apart edges first second ∧ Apart edges second first ∧
      generate {} (first ++ second) edges = generate {} first edges ++ generate {} second edges ∧
      ∃ after, workspace.apply (.edit (.addNode (network "m" "test"))) = (.ok true, after) ∧
        after.overridden = false ∧
        after.code = workspace.code ++
          generate settings.generator [network "m" "test"] workspace.diagram.edges := by
  intro network machine bucket first second edges actions settings
  have forth : Apart edges first second := by decide
  have back : Apart edges second first := by decide
  refine ⟨forth, back, independent_parts_in_code.1 {} first second edges forth back, ?_⟩
  refine independent_parts_in_code.2 settings actions (network "m" "test") ?_ ?_ (fun _ => ?_) ?_
  -- The code is generated, the id is new, no connection leads to it, and none from it to a network.
  · decide +kernel
  · decide +kernel
  · decide +kernel
  · decide +kernel

end Workspace

end CloudDiagram
