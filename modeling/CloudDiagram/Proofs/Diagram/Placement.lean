import CloudDiagram.Terraform.Code
import Mathlib.Data.List.Basic

/-!
# Where an instance is placed

An instance may sit in any network node that a connection leads to from its id. These
nodes are read off the two lists of a diagram, in the order of the nodes, and a node
counts once however many connections lead to it. The links of a diagram answer with the
same nodes. The first of them gives the network its name to the instance; where there is
none, the placeholder stands in.
-/

namespace CloudDiagram

/-- The network nodes that a connection leads to from an id, in the order of the
nodes. It is read off the two lists, without the links. -/
def networkTargets (nodes : List Node) (edges : List Connection) (id : String) : List Node :=
  nodes.filter fun node =>
    node.kind? = some .network ∧ ∃ edge ∈ edges, edge.source = id ∧ edge.target = node.id

/-- The name of the first network that a connection leads to from an id, or the
placeholder if there is none. An instance bears this name in its code. -/
def placedIn (settings : GeneratorSettings) (nodes : List Node) (edges : List Connection)
    (id : String) : String :=
  ((networkTargets nodes edges id).head?.bind Node.network?).elim settings.placeholder Network.name

/-- A node describes a network exactly if it is of that kind, so the two ways to ask
for networks agree. -/
theorem Node.isSome_network? (node : Node) :
    node.network?.isSome = true ↔ node.kind? = some .network := by
  rw [Node.network?, Node.kind?]
  cases node.payload <;> simp [Payload.network?, Payload.kind?]

/-- A network target is a node that describes a network, so nothing is lost when the
descriptions are looked up. -/
theorem network?_of_mem_networkTargets {nodes : List Node} {edges : List Connection} {id : String}
    {node : Node} (member : node ∈ networkTargets nodes edges id) :
    ∃ network, node.network? = some network := by
  have network := of_decide_eq_true (List.mem_filter.mp member).2
  exact Option.isSome_iff_exists.mp (node.isSome_network?.mpr network.1)

/-- The links find the network targets, each with what it describes and in the same
order. -/
theorem networksOf_ofLists (nodes : List Node) (edges : List Connection) (id : String) :
    (Links.ofLists nodes edges).networksOf nodes id =
      (networkTargets nodes edges id).filterMap fun node => node.network?.map (node, ·) := by
  rw [networkTargets, List.filterMap_filter, Links.networksOf]
  refine List.filterMap_congr ?_
  intro node _
  cases described : node.network? with
  | none => simp
  | some network =>
    have kind : node.kind? = some .network := node.isSome_network?.mp (by simp [described])
    by_cases connected : (Links.ofLists nodes edges).connects id node.id = true
    · have joined := Links.connects_ofLists.mp connected
      simp [connected, kind, joined]
    · have apart := mt Links.connects_ofLists.mpr connected
      simp [connected, apart]

/-- The nodes that the links find are the network targets. Each has a description,
so none of them is dropped. -/
theorem map_fst_networksOf (nodes : List Node) (edges : List Connection) (id : String) :
    ((Links.ofLists nodes edges).networksOf nodes id).map Prod.fst =
      networkTargets nodes edges id := by
  rw [networksOf_ofLists, List.map_filterMap]
  refine (List.filterMap_congr ?_).trans List.filterMap_some
  intro node member
  obtain ⟨network, described⟩ := network?_of_mem_networkTargets member
  simp [described]

/-- An id is placed in its first network target: the links take the first network
that they find. -/
theorem containingNetwork?_ofLists (nodes : List Node) (edges : List Connection) (id : String) :
    (Links.ofLists nodes edges).containingNetwork? nodes id =
      (networkTargets nodes edges id).head?.bind Node.network? := by
  rw [Links.containingNetwork?, networksOf_ofLists]
  cases targets : networkTargets nodes edges id with
  | nil => rfl
  | cons first rest =>
    have member : first ∈ networkTargets nodes edges id := targets ▸ List.mem_cons_self
    obtain ⟨network, described⟩ := network?_of_mem_networkTargets member
    simp [described]

/-- The name that is given to an id is that of the network it is placed in. So the
code can be described by the lists alone. -/
theorem networkName_ofLists (settings : GeneratorSettings) (nodes : List Node)
    (edges : List Connection) :
    Terraform.networkName settings (Links.ofLists nodes edges) nodes =
      placedIn settings nodes edges := by
  funext id
  rw [Terraform.networkName, containingNetwork?_ofLists, placedIn]

end CloudDiagram
