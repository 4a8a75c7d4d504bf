import CloudDiagram.Proofs.Registry.Numbering
import CloudDiagram.Proofs.Session.Soundness
import CloudDiagram.Proofs.Terraform.Headers

/-!
# Preset resources do not clash

Preset resources are declared in three ways: a network under its id, an instance under the name of
its network with the id behind it, and a bucket under a name that takes only the number from the
id. All these names end in a dash and that number, so the number is read back from the name,
whatever the network is called. The type tells the kind, and the kind and the number make up the
id. Two preset resources of one address have the same id.

So addresses are distinct where ids are. These are distinct in all diagrams of a session that
places preset resources only, since a node is refused if its id is taken in the live diagram, and
undo and redo bring back a whole diagram and do not mix two of them. It does not matter here
whether the numbers of ids have started over.
-/

namespace CloudDiagram

open Terraform

namespace Preset

/-- The type of the resource that a kind is declared under. It is the first half of
every address, so that the kind is known from the address alone. -/
def declaredType : Kind → String
  | .network => "aws_vpc"
  | .compute => "aws_instance"
  | .storage => "aws_s3_bucket"

/-- What stands before the number in the name that a preset resource is declared
under. A network keeps its id, an instance is called after the network it is placed
in, and a bucket takes nothing but the number from its id. -/
def declaredStem (network : String) : Kind → String
  | .network => Kind.network.tag
  | .compute => instanceName network Kind.compute.tag
  | .storage => "my-bucket"

/-- The address that the preset resource of a kind and with a number is declared
under. For an instance it depends on the name of the network, for the other kinds it
does not. -/
def address (network : String) (kind : Kind) (number : UInt64) : Address :=
  ⟨declaredType kind, numberedId (declaredStem network kind) number⟩

/-- Kinds are declared under different types, so two addresses of one type belong to
resources of one kind. -/
theorem declaredType_injective : Function.Injective declaredType := by
  intro kind other same
  cases kind <;> cases other <;> first | rfl | exact absurd same (by decide)

/-- The kind and the number are read off the address, whatever the networks are
called. A name of a network may well end in a dash and a number itself; this does no
harm, since the last number of the name is the one of the instance. -/
theorem address_inj {network network' : String} {kind other : Kind} {number number' : UInt64}
    (same : address network kind number = address network' other number') :
    kind = other ∧ number = number' := by
  obtain ⟨types, names⟩ := Address.mk.inj same
  exact ⟨declaredType_injective types, numberedId_inj names⟩

/-- The name of an instance ends in the number of its id, since the id comes last in
it and ends in that number. -/
theorem instanceName_numberedId (network stem : String) (number : UInt64) :
    instanceName network (numberedId stem number) =
      numberedId (instanceName network stem) number := by
  simp only [instanceName, numberedId, String.append_assoc]

/-- The name of a bucket ends in the number of its id, which is what a bucket's name
is made from where the id has a number at all. -/
theorem bucketName_numberedId (stem : String) (number : UInt64) :
    bucketName (numberedId stem number) = numberedId "my-bucket" number := by
  rw [bucketName, idNumber?_numberedId, numberedId]
  rfl

end Preset

/-- A node as it is placed from the palette: its id was made up from the tag of a
kind, and it has the attributes of that kind. Its place may be any, since it is
moved freely and nothing that is declared depends on it. -/
def Node.IsPreset (node : Node) : Prop :=
  ∃ kind number, node.id = numberedId kind.tag number ∧ node.payload = Preset.payload kind node.id

/-- The node that is placed is a preset one, from any registry: the id comes from
the tag and the next number, and the attributes from the kind and the id. -/
theorem Preset.isPreset_place (registry : Registry) (kind : Kind) (position : Position) :
    (place registry kind position).1.IsPreset :=
  ⟨kind, _, rfl, rfl⟩

namespace Node.IsPreset

/-- A preset node is of a kind, so it is never one of those that are left out of the
code. -/
theorem kind?_ne_none {node : Node} (preset : node.IsPreset) : node.kind? ≠ none := by
  obtain ⟨kind, number, -, payload⟩ := preset
  rw [Node.kind?, payload, Preset.kind?_payload]
  exact Option.some_ne_none kind

/-- The address of a preset node is that of its kind and of the number of its id,
with the name of its own network where it is an instance. -/
theorem address?_eq {node : Node} (preset : node.IsPreset) (network : String → String) :
    ∃ kind number, node.id = numberedId kind.tag number ∧
      address? network node = some (Preset.address (network node.id) kind number) := by
  obtain ⟨kind, number, id, payload⟩ := preset
  refine ⟨kind, number, id, ?_⟩
  rw [address?, payload]
  generalize network node.id = name
  rw [id]
  cases kind with
  | network => rfl
  | compute =>
    rw [Preset.address, Preset.declaredStem, ← Preset.instanceName_numberedId]
    rfl
  | storage =>
    rw [Preset.address, Preset.declaredStem, ← Preset.bucketName_numberedId Kind.storage.tag]
    rfl

/-- Preset nodes of one address have the same id. The networks may be called
anything, also differently for the two nodes, since the number comes last in the
name. -/
theorem id_eq {node other : Node} (preset : node.IsPreset) (preset' : other.IsPreset)
    {network : String → String} (same : address? network node = address? network other) :
    node.id = other.id := by
  obtain ⟨kind, number, id, address⟩ := preset.address?_eq network
  obtain ⟨kind', number', id', address'⟩ := preset'.address?_eq network
  rw [address, address'] at same
  obtain ⟨rfl, rfl⟩ := Preset.address_inj (Option.some.inj same)
  exact id.trans id'.symm

end Node.IsPreset

namespace Diagram

/-- All nodes are preset ones, and their ids are distinct. This is what a diagram
has to keep for its addresses to be distinct; nothing is said of the connections,
which decide on the names of networks only. -/
structure FromPalette (diagram : Diagram) : Prop where
  distinctIds : (diagram.nodes.map Node.id).Nodup
  preset : ∀ node ∈ diagram.nodes, node.IsPreset

/-- The only nodes that such an edit brings are preset ones, and it leaves
attributes alone. The connections may be replaced by any list, since no address
depends on the connections beyond the name of a network. -/
def Edit.OfPalette : Edit → Prop
  | addNode node => node.IsPreset
  | replaceNodes _ | setPayload _ _ => False
  | removeNode _ | replaceEdges _ | moveNode _ _ | addEdge _ => True

namespace FromPalette

/-- The empty diagram has no nodes, so it has none but preset ones. Every session
starts with it. -/
theorem empty : ({} : Diagram).FromPalette where
  distinctIds := List.nodup_nil
  preset _ none := nomatch none

/-- A diagram stays one of preset nodes if nothing else is brought in. A preset node
may be added as its id is new, or else the edit is refused; to remove or move nodes
changes no id and no attributes. -/
theorem edit {diagram edited : Diagram} (built : diagram.FromPalette) {edit : Edit}
    (ofPalette : edit.OfPalette) (done : diagram.edit edit = .ok (some edited)) :
    edited.FromPalette := by
  cases edit with
  | addNode node =>
    obtain ⟨new, rfl⟩ := edit_addNode_eq_some_iff.mp done
    refine ⟨nodup_ids_append built.distinctIds new, ?_⟩
    simp only [List.forall_mem_append, List.forall_mem_singleton]
    exact ⟨built.preset, ofPalette⟩
  | removeNode id =>
    obtain ⟨-, rfl⟩ := edit_removeNode_eq_some_iff.mp done
    refine ⟨built.distinctIds.sublist (List.filter_sublist.map Node.id), ?_⟩
    intro node member
    exact built.preset node (List.mem_of_mem_filter member)
  | moveNode id position =>
    obtain ⟨nodes, changed, rfl⟩ := withNode_eq_some_iff.mp done
    constructor
    · rw [map_id_of_changeNode? (by intro _; rfl) changed]
      exact built.distinctIds
    · intro node member
      rcases mem_changeNode? changed member with kept | ⟨old, present, rfl⟩
      · exact built.preset node kept
      · exact built.preset old present
  | replaceEdges edges =>
    cases done
    exact ⟨built.distinctIds, built.preset⟩
  | addEdge edge =>
    obtain ⟨-, rfl⟩ := edit_addEdge_eq_some_iff.mp done
    exact ⟨built.distinctIds, built.preset⟩
  | replaceNodes nodes => exact ofPalette.elim
  | setPayload id payload => exact ofPalette.elim

/-- All nodes have addresses, since only a node of no kind has none. So there are as
many blocks as nodes. -/
theorem address?_ne_none {diagram : Diagram} (built : diagram.FromPalette)
    (network : String → String) : ∀ node ∈ diagram.nodes, address? network node ≠ none := by
  intro node member unnamed
  exact (built.preset node member).kind?_ne_none (address?_eq_none_iff.mp unnamed)

/-- The addresses of the nodes are distinct, whatever the networks are called, since
nodes of one address have one id and the ids are distinct. -/
theorem nodup_addresses {diagram : Diagram} (built : diagram.FromPalette)
    (network : String → String) : (diagram.nodes.filterMap (address? network)).Nodup := by
  rw [nodup_filterMap_iff (built.address?_ne_none network)]
  refine List.Nodup.map_on ?_ (List.Nodup.of_map Node.id built.distinctIds)
  intro node member other member' same
  exact List.inj_on_of_nodup_map built.distinctIds member member'
    ((built.preset node member).id_eq (built.preset other member') same)

/-- Every node declares a resource, and no two of them under one address: the
addresses of the blocks are those of the nodes, and they are distinct. -/
theorem blocks_distinct {diagram : Diagram} (built : diagram.FromPalette)
    (settings : GeneratorSettings) :
    (blocks settings diagram.nodes diagram.edges).length = diagram.nodes.length ∧
      ((blocks settings diagram.nodes diagram.edges).map Block.address).Nodup := by
  have addresses : (blocks settings diagram.nodes diagram.edges).map Block.address =
      diagram.nodes.filterMap (address? (networkName settings
        (Links.ofLists diagram.nodes diagram.edges) diagram.nodes)) := by
    rw [blocks, List.map_filterMap]
    exact List.filterMap_congr fun node _ => address_block? settings _ node
  have all := congrArg List.length (map_some_filterMap (built.address?_ne_none
    (networkName settings (Links.ofLists diagram.nodes diagram.edges) diagram.nodes)))
  rw [← addresses] at all
  refine ⟨by simpa using all, ?_⟩
  rw [addresses]
  exact built.nodup_addresses _

/-- No id and no address is reported as taken, and no node as left out. The reports
of each of these rules list repeated ids, repeated addresses or nodes of no kind,
and there are none. -/
theorem not_reported {diagram : Diagram} (built : diagram.FromPalette)
    (settings : GeneratorSettings) :
    ∀ diagnostic ∈ diagnose settings diagram.nodes diagram.edges, diagnostic.finding.rule ∉
      ["duplicate-id", "duplicate-address", "malformed-node", "unknown-kind"] := by
  have readable : ∀ node ∈ diagram.nodes, node.kind? ≠ none :=
    fun node member => (built.preset node member).kind?_ne_none
  rw [← reported_eq_nil_iff, reported_diagnose,
    Rule.duplicateIds_eq_nil_iff.mpr built.distinctIds,
    Rule.unreadableNodes_eq_nil_iff.mpr readable,
    (Rule.fromRules_danglingEdges _ diagram.edges).reported_eq_nil (by decide),
    (Rule.fromRules_reversedContainments diagram.nodes diagram.edges).reported_eq_nil (by decide),
    (Rule.fromRules_placements settings _ diagram.nodes).reported_eq_nil (by decide),
    Rule.duplicateAddresses_eq_nil_iff.mpr (built.nodup_addresses _)]
  rfl

end FromPalette

end Diagram

/-- An operation places no other nodes than preset ones and leaves attributes alone.
Nodes are placed by kind or by tag only, so a list of nodes and a node of one's own
are ruled out; everything else may be asked for. -/
def Operation.OfPalette : Operation → Prop
  | .change (.edit (.addNode _)) | .change (.edit (.replaceNodes _))
  | .change (.edit (.setPayload _ _)) => False
  | .change (.edit (.removeNode _)) | .change (.edit (.replaceEdges _))
  | .change (.edit (.moveNode _ _)) | .change (.edit (.addEdge _))
  | .change (.overrideCode _) | .addResource _ _ | .addTagged _ _ | .connect _ _ | .undo
  | .redo => True

namespace Session

/-- The edit that such an operation asks for places no other nodes and sets no
attributes. It brings the operations of a session down to the edits that the diagram
is known to keep its form under. -/
theorem ofPalette_edit? {session : Session} {operation : Operation}
    (ofPalette : operation.OfPalette) {edit : Diagram.Edit}
    (asked : session.edit? operation = some edit) : edit.OfPalette := by
  cases operation with
  | change change =>
    cases change with
    | edit edit =>
      cases asked
      cases edit with
      | addNode _ | replaceNodes _ | setPayload _ _ => exact ofPalette.elim
      | removeNode _ | replaceEdges _ | moveNode _ _ | addEdge _ => trivial
    | overrideCode text => cases asked
  | addResource kind position =>
    cases asked
    exact Preset.isPreset_place session.registry kind position
  | addTagged tag position =>
    obtain ⟨kind, -, rfl⟩ := Option.map_eq_some_iff.mp asked
    exact Preset.isPreset_place session.registry kind position
  | connect source target =>
    cases asked
    trivial
  | undo | redo => cases asked

/-- Build a diagram of preset resources, from any registry and with any settings:
connect and remove what you like, move nodes, put texts in place of the code, go
back and forward. No id and no address is ever reported as taken and no node as left
out; every node declares a resource, and no two of them under one address.

Proof: the diagrams of all entries are made of preset nodes with distinct ids, by
induction on the operations. An edit keeps this, and undo and redo bring back one of
these diagrams. -/
theorem presets_never_clash {settings : WorkspaceSettings} {registry : Registry}
    {operations : List Operation} (ofPalette : ∀ operation ∈ operations, operation.OfPalette) :
    let workspace := ((start settings registry).run operations).workspace
    let blocks :=
      blocks workspace.settings.generator workspace.diagram.nodes workspace.diagram.edges
    (∀ diagnostic ∈ workspace.diagnostics, diagnostic.finding.rule ∉
        ["duplicate-id", "duplicate-address", "malformed-node", "unknown-kind"]) ∧
      blocks.length = workspace.diagram.nodes.length ∧ (blocks.map Block.address).Nodup := by
  intro workspace blocks
  have all : ∀ diagram ∈ workspace.diagrams, diagram.FromPalette := by
    refine forall_diagrams_run ?_ (along_of_forall ofPalette _)
      (Workspace.forall_diagrams_start.mpr .empty)
    intro session operation edit edited ofPalette asked built done
    exact built.edit (ofPalette_edit? ofPalette asked) done
  have built : workspace.diagram.FromPalette := all _ List.mem_cons_self
  exact ⟨built.not_reported _, built.blocks_distinct _⟩

/-- A network, two instances and a bucket, one of the instances in the network and
the other one in none; the network is removed and brought back. The id `ec2-2` was
seen before the session, and the placeholder is called like the network. -/
theorem presets_within_and_without :
    let operations : List Operation := [.addTagged "vpc" .origin, .addTagged "compute" .origin,
      .addResource .compute .origin, .connect "ec2-3" "vpc-1", .addResource .storage .origin,
      .change (.edit (.removeNode "vpc-1")), .undo]
    let settings : WorkspaceSettings := { generator := { placeholder := "vpc-1" } }
    let registry : Registry := { seen := ["ec2-2"] }
    let workspace := ((start settings registry).run operations).workspace
    (∀ operation ∈ operations, operation.OfPalette) ∧
      workspace.diagram.nodes.map Node.id = ["vpc-1", "ec2-3", "ec2-4", "s3-6"] ∧
      ∀ diagnostic ∈ workspace.diagnostics, diagnostic.finding.rule ∉
        ["duplicate-id", "duplicate-address", "malformed-node", "unknown-kind"] := by
  intro operations settings registry workspace
  have ofPalette : ∀ operation ∈ operations, operation.OfPalette := by
    simp [operations, Operation.OfPalette]
  obtain ⟨clean, -⟩ := @presets_never_clash settings registry operations ofPalette
  exact ⟨ofPalette, by decide +kernel, clean⟩

end Session

end CloudDiagram
