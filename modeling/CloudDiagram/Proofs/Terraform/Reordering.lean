import CloudDiagram.Proofs.Terraform.Parts
import Mathlib.Data.List.FinRange
import Mathlib.Data.List.Sort

/-!
# Code in another order

The order of the nodes decides two things: the order of their blocks, and which of several
networks an instance is placed in. For the second only the networks count. A permutation that
keeps them in the order they were in leaves every instance where it was placed, so every node
adds to the code what it added before, under the address it had, and the blocks are permuted
as the nodes are.

A permutation is one of places, not of nodes, so that it says where each of several equal
nodes goes. The networks are found at the same places in the same order: both are increasing
lists of the same places.
-/

namespace CloudDiagram.Terraform

/-- The nodes in another order: `order` tells from which place the node at a place
comes. No node is lost or drawn twice. -/
def reordered (nodes : List Node) (order : Equiv.Perm (Fin nodes.length)) : List Node :=
  List.ofFn fun place => nodes[order place]

/-- Of two networks, the one that came first comes first still. Nothing is asked of
the nodes between them. -/
def KeepsNetworks (nodes : List Node) (order : Equiv.Perm (Fin nodes.length)) : Prop :=
  ∀ place later : Fin nodes.length, place < later →
    nodes[order place].kind? = some .network → nodes[order later].kind? = some .network →
      order place < order later

instance (nodes : List Node) (order : Equiv.Perm (Fin nodes.length)) :
    Decidable (KeepsNetworks nodes order) :=
  inferInstanceAs (Decidable (∀ place later : Fin nodes.length, place < later →
    nodes[order place].kind? = some .network → nodes[order later].kind? = some .network →
      order place < order later))

section

variable {nodes : List Node} {order : Equiv.Perm (Fin nodes.length)}

/-- The places of the networks come in the same order. Both lists are increasing and
hold the same places, and there is only one such list. -/
theorem KeepsNetworks.filter_places (kept : KeepsNetworks nodes order) :
    (List.ofFn order).filter (fun place => nodes[place].kind? = some .network) =
      (List.finRange nodes.length).filter (fun place => nodes[place].kind? = some .network) := by
  have increasing : ((List.ofFn order).filter
      fun place => nodes[place].kind? = some .network).Pairwise (· < ·) := by
    rw [List.pairwise_filter, List.pairwise_ofFn]
    intro place later before network another
    exact kept place later before (of_decide_eq_true network) (of_decide_eq_true another)
  have standard : ((List.finRange nodes.length).filter
      fun place => nodes[place].kind? = some .network).Pairwise (· < ·) :=
    (List.pairwise_lt_finRange nodes.length).filter _
  have permuted : (List.ofFn order).Perm (List.finRange nodes.length) := by
    rw [List.ofFn_eq_map]
    exact order.map_finRange_perm
  exact (permuted.filter _).eq_of_pairwise' increasing standard

/-- The networks come in the same order, as they are the nodes at these places. -/
theorem KeepsNetworks.filter_nodes (kept : KeepsNetworks nodes order) :
    (reordered nodes order).filter (fun node => node.kind? = some .network) =
      nodes.filter fun node => node.kind? = some .network := by
  have moved : reordered nodes order = (List.ofFn order).map fun place => nodes[place] := by
    rw [List.map_ofFn]
    rfl
  have whole : (List.finRange nodes.length).map (fun place => nodes[place]) = nodes := by
    rw [← List.ofFn_eq_map]
    exact List.ofFn_getElem
  have networks (places : List (Fin nodes.length)) :
      (places.map fun place => nodes[place]).filter (fun node => node.kind? = some .network) =
        (places.filter fun place => nodes[place].kind? = some .network).map
          fun place => nodes[place] :=
    List.filter_map
  calc (reordered nodes order).filter (fun node => node.kind? = some .network)
    _ = ((List.ofFn order).filter fun place => nodes[place].kind? = some .network).map
          fun place => nodes[place] := by rw [moved, networks]
    _ = ((List.finRange nodes.length).filter fun place => nodes[place].kind? = some .network).map
          fun place => nodes[place] := by rw [kept.filter_places]
    _ = nodes.filter fun node => node.kind? = some .network := by rw [← networks, whole]

/-- An id may sit in the same networks, the first of which is the same. Other nodes
are never among them, wherever they have moved. -/
theorem KeepsNetworks.networkTargets_eq (kept : KeepsNetworks nodes order)
    (edges : List Connection) (id : String) :
    networkTargets (reordered nodes order) edges id = networkTargets nodes edges id := by
  have among (list : List Node) : networkTargets list edges id =
      (list.filter fun node => node.kind? = some .network).filter
        fun node => Joins edges id node.id := by
    rw [networkTargets, List.filter_filter]
    refine List.filter_congr ?_
    intro node _
    rw [← Bool.decide_and, decide_eq_decide]
    exact and_comm
  rw [among, among, kept.filter_nodes]

end

/-- Let the nodes of a diagram be permuted so that its networks stay in their order.
The code was what each node adds to it, in the order of the nodes; now it is the
very same pieces, in the order that the nodes have come to. And every node has the
address that it had. -/
theorem generate_reordered (settings : GeneratorSettings) {nodes : List Node}
    (edges : List Connection) {order : Equiv.Perm (Fin nodes.length)}
    (kept : KeepsNetworks nodes order) :
    let others := reordered nodes order
    let piece (place : Fin nodes.length) := nodeCode settings nodes edges nodes[place]
    generate settings nodes edges = String.join (List.ofFn piece) ∧
      generate settings others edges =
        String.join (List.ofFn fun place => piece (order place)) ∧
      ∀ node,
        address? (networkName settings (Links.ofLists others edges) others) node =
          address? (networkName settings (Links.ofLists nodes edges) nodes) node := by
  intro others piece
  have placed : placedIn settings others edges = placedIn settings nodes edges :=
    funext fun id => placedIn_congr settings (kept.networkTargets_eq edges id)
  have pieces (node : Node) :
      nodeCode settings others edges node = nodeCode settings nodes edges node :=
    nodeCode_congr settings fun _ => kept.networkTargets_eq edges node.id
  refine ⟨?_, ?_, ?_⟩
  · rw [generate_eq_join, ← List.ofFn_getElem_eq_map]
    rfl
  · rw [generate_eq_join, List.map_congr_left fun node _ => pieces node]
    exact congrArg String.join List.map_ofFn
  · intro node
    rw [networkName_ofLists, networkName_ofLists, placed]

/-- An instance that stands twice is drawn twice in the first of two networks of one id. The two
drawings and a bucket change places, and so do their pieces of the code. -/
theorem generate_reordered_around_networks :
    let network (name : String) : Node :=
      { id := "n", payload := .network { name, cidrBlock := "10.0.0.0/16" } }
    let machine : Node :=
      { id := "c", payload := .compute { instanceType := "t2.micro", machineImage := "ami-1" } }
    let bucket : Node := { id := "x", payload := .storage { bucketName := "logs" } }
    let nodes : List Node := [machine, network "prod", bucket, network "test", machine]
    let edges : List Connection := [⟨"e1", "c", "n"⟩, ⟨"e2", "c", "y"⟩]
    let order : Equiv.Perm (Fin 5) := (Equiv.swap 0 2).trans (Equiv.swap 3 4)
    let piece (place : Fin nodes.length) := nodeCode {} nodes edges nodes[place]
    KeepsNetworks nodes order ∧
      reordered nodes order = [bucket, network "prod", machine, machine, network "test"] ∧
      generate {} (reordered nodes order) edges =
        String.join (List.ofFn fun place => piece (order place)) := by
  intro network machine bucket nodes edges order piece
  have kept : KeepsNetworks nodes order := by decide
  have moved : reordered nodes order =
      [bucket, network "prod", machine, machine, network "test"] := by decide
  exact ⟨kept, moved, (generate_reordered {} edges kept).2.1⟩

end CloudDiagram.Terraform
