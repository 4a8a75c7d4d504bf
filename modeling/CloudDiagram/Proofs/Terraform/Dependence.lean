import CloudDiagram.Terraform.Code
import Mathlib.Data.List.Basic

/-!
# What the code depends on

Of a node, the code uses the id and the payload, and of the connections it uses which
instance they join to which network. Two diagrams that agree in that have the same code,
whatever else differs: where the nodes are drawn, which unreadable nodes stand between
them and under which ids, and how the connections are named, ordered and repeated, or
which further ones there are between other ends.

An unreadable node may bear the id of a network. Whoever is connected to that id is
connected to both, and only the network is found.
-/

namespace CloudDiagram.Terraform

/-- What the code uses of the nodes: id and payload of each that is readable, in
order. Positions and nodes of no kind are left out. -/
def readableParts (nodes : List Node) : List (String × Payload) :=
  (nodes.filter fun node => node.kind?.isSome).map fun node => (node.id, node.payload)

/-- Whether some connection runs from the one id to the other. Neither its own id
nor how many there are matters. -/
def Joins (edges : List Connection) (source target : String) : Prop :=
  ∃ edge ∈ edges, edge.source = source ∧ edge.target = target

instance (edges : List Connection) (source target : String) :
    Decidable (Joins edges source target) :=
  inferInstanceAs (Decidable (∃ edge ∈ edges, edge.source = source ∧ edge.target = target))

/-- What the code uses of the connections: two lists of them join the same of the
instances to the same of the networks. All other connections may differ. -/
def SamePlacement (nodes : List Node) (edges others : List Connection) : Prop :=
  ∀ machine ∈ nodes, machine.kind? = some .compute →
    ∀ node ∈ nodes, node.kind? = some .network →
      (Joins edges machine.id node.id ↔ Joins others machine.id node.id)

instance (nodes : List Node) (edges others : List Connection) :
    Decidable (SamePlacement nodes edges others) :=
  inferInstanceAs (Decidable (∀ machine ∈ nodes, machine.kind? = some .compute →
    ∀ node ∈ nodes, node.kind? = some .network → _))

/-- Each part is that of a node of its kind. The position of that node is not
determined by the part, and the placement of instances does not need it. -/
theorem exists_node_of_mem_readableParts {nodes : List Node} {id : String} {payload : Payload}
    (member : (id, payload) ∈ readableParts nodes) :
    ∃ node ∈ nodes, node.id = id ∧ node.kind? = payload.kind? := by
  obtain ⟨node, kept, same⟩ := List.mem_map.mp member
  cases same
  exact ⟨node, List.mem_of_mem_filter kept, rfl, rfl⟩

/-- A node that cannot be read adds no part. With this, whatever depends on the
parts only is unchanged when such a node is put in or taken out. -/
theorem readableParts_of_unreadable {before after : List Node} {node : Node}
    (unreadable : node.kind? = none) :
    readableParts (before ++ node :: after) = readableParts (before ++ after) := by
  simp [readableParts, unreadable]

/-- What is said of the readable nodes by their parts may be said of all nodes if it
is nothing of the others. This moves a lookup over all nodes to the parts. -/
theorem filterMap_readableParts {β : Type} (nodes : List Node)
    (about : String × Payload → Option β)
    (silent : ∀ id payload, payload.kind? = none → about (id, payload) = none) :
    (readableParts nodes).filterMap about =
      nodes.filterMap fun node => about (node.id, node.payload) := by
  rw [readableParts, List.filterMap_map, List.filterMap_filter]
  refine List.filterMap_congr ?_
  intro node _
  cases kind : node.kind? with
  | none => exact (silent node.id node.payload kind).symm
  | some kind => rfl

/-- The networks among some parts that an id is joined to. It is what the links
answer, stated without the nodes they were built from. -/
def networksAmong (parts : List (String × Payload)) (edges : List Connection) (source : String) :
    List Network :=
  parts.filterMap fun (target, payload) =>
    if Joins edges source target then payload.network? else none

/-- The networks that the links find are those among the readable parts, in the same
order. A node of another kind gives no network, whether or not the id is joined to
it. -/
theorem networksOf_eq_networksAmong (nodes : List Node) (edges : List Connection)
    (source : String) :
    ((Links.ofLists nodes edges).networksOf nodes source).map Prod.snd =
      networksAmong (readableParts nodes) edges source := by
  rw [networksAmong, filterMap_readableParts, Links.networksOf, List.map_filterMap]
  · refine List.filterMap_congr ?_
    intro node _
    have joined : (Links.ofLists nodes edges).connects source node.id = true ↔
        Joins edges source node.id := Links.connects_ofLists
    cases described : node.payload.network? with
    | none => simp [Node.network?, described]
    | some network =>
      by_cases joins : Joins edges source node.id <;> simp [Node.network?, described, joined, joins]
  · intro id payload unreadable
    cases payload with
    | network _ | compute _ | storage _ => cases unreadable
    | unrecognized _ _ | malformed _ => exact ite_self none

/-- The name of the network that an id is placed in depends on the readable parts
and on what the id is joined to. It is the first of them, or the placeholder. -/
theorem networkName_eq (settings : GeneratorSettings) (nodes : List Node)
    (edges : List Connection) (source : String) :
    networkName settings (Links.ofLists nodes edges) nodes source =
      ((networksAmong (readableParts nodes) edges source).head?).elim
        settings.placeholder Network.name := by
  rw [networkName, Links.containingNetwork?, ← List.head?_map, networksOf_eq_networksAmong]

/-- An instance is joined to the same networks by connections of the same placement.
Parts of other kinds give no network on either side. -/
theorem SamePlacement.networksAmong_eq {nodes : List Node} {edges others : List Connection}
    (placement : SamePlacement nodes edges others) {machine : Node} (member : machine ∈ nodes)
    (compute : machine.kind? = some .compute) :
    networksAmong (readableParts nodes) edges machine.id =
      networksAmong (readableParts nodes) others machine.id := by
  refine List.filterMap_congr ?_
  rintro ⟨target, payload⟩ part
  cases payload with
  | network attributes =>
    obtain ⟨node, among, rfl, kind⟩ := exists_node_of_mem_readableParts part
    exact if_congr (placement machine member compute node among kind) rfl rfl
  | compute _ | storage _ | unrecognized _ _ | malformed _ =>
    exact (ite_self none).trans (ite_self none).symm

/-- The block of a node depends on its part, and on its network if it is an
instance. The blocks of the other kinds do not ask where the node is placed. -/
theorem block?_congr (settings : GeneratorSettings) {network other : String → String}
    {first second : Node} (id : first.id = second.id) (payload : first.payload = second.payload)
    (placed : first.kind? = some .compute → network first.id = other first.id) :
    block? settings network first = block? settings other second := by
  rw [Node.kind?] at placed
  cases content : first.payload with
  | compute attributes =>
    have same : network first.id = other first.id := placed (by rw [content]; rfl)
    simp only [block?, ← payload, content, ← id, same]
  | network _ | storage _ | unrecognized _ _ | malformed _ =>
    simp only [block?, ← payload, content]

/-- The blocks of a diagram are those of its readable parts. An unreadable node has
no block, so nothing is lost when only the parts are kept. -/
theorem blocks_eq (settings : GeneratorSettings) (nodes : List Node) (edges : List Connection) :
    blocks settings nodes edges = (readableParts nodes).filterMap fun (id, payload) =>
      block? settings (networkName settings (Links.ofLists nodes edges) nodes) { id, payload } := by
  rw [filterMap_readableParts]
  · refine List.filterMap_congr ?_
    intro node _
    exact block?_congr settings rfl rfl fun _ => rfl
  · intro id payload unreadable
    cases payload with
    | network _ | compute _ | storage _ => cases unreadable
    | unrecognized _ _ | malformed _ => rfl

/-- Two diagrams have the same code if their readable nodes agree in order on ids
and payloads, and their connections join the same instances to the same networks.

Proof: both codes print the blocks of the same parts. A block that is no instance
does not see the connections, and an instance is placed in the same network by both.
-/
theorem generate_eq_of_samePlacement (settings : GeneratorSettings) {nodes others : List Node}
    {edges otherEdges : List Connection} (parts : readableParts nodes = readableParts others)
    (placement : SamePlacement nodes edges otherEdges) :
    generate settings nodes edges = generate settings others otherEdges := by
  rw [generate, generate, blocks_eq, blocks_eq, ← parts]
  refine congrArg printBlocks (List.filterMap_congr ?_)
  rintro ⟨id, payload⟩ part
  refine block?_congr settings rfl rfl ?_
  intro compute
  obtain ⟨machine, member, rfl, kind⟩ := exists_node_of_mem_readableParts part
  rw [networkName_eq, networkName_eq, ← parts,
    placement.networksAmong_eq member (kind.trans compute)]

/-- The code of an instance in the first of two networks stays the same when the nodes are
moved, an unreadable node bears the id of a network, and the connections are repeated,
reordered, and joined by others that lead back or nowhere. -/
theorem generate_eq_of_disguised_network :
    let away : Position := ⟨.nan, .infinity true⟩
    let alpha : Payload := .network { name := "alpha", cidrBlock := "10.0.0.0/16" }
    let beta : Payload := .network { name := "beta", cidrBlock := "10.1.0.0/16" }
    let machine : Payload := .compute { instanceType := "t2.micro", machineImage := "ami-1" }
    let bucket : Payload := .storage { bucketName := "logs" }
    let nodes : List Node := [
      ⟨"b", beta, .origin⟩, ⟨"a", alpha, .origin⟩, ⟨"i", machine, .origin⟩, ⟨"s", bucket, .origin⟩]
    let others : List Node := [
      ⟨"a", .malformed .null, .origin⟩, ⟨"b", beta, away⟩, ⟨"a", alpha, .origin⟩,
      ⟨"i", .unrecognized "rds" .null, .origin⟩, ⟨"i", machine, away⟩,
      ⟨"s", bucket, .origin⟩]
    let edges : List Connection := [⟨"e1", "i", "a"⟩, ⟨"e2", "b", "i"⟩]
    let otherEdges : List Connection := [
      ⟨"e2", "i", "s"⟩, ⟨"e9", "i", "a"⟩, ⟨"e1", "s", "b"⟩, ⟨"e9", "i", "a"⟩, ⟨"e3", "i", "z"⟩]
    readableParts nodes = readableParts others ∧ SamePlacement nodes edges otherEdges ∧
      generate {} nodes edges = generate {} others otherEdges := by
  intro away alpha beta machine bucket nodes others edges otherEdges
  have parts : readableParts nodes = readableParts others := by decide
  have placement : SamePlacement nodes edges otherEdges := by decide
  exact ⟨parts, placement, generate_eq_of_samePlacement {} parts placement⟩

end CloudDiagram.Terraform
