import CloudDiagram.Proofs.Diagnostic.Report
import Mathlib.Data.List.Nodup

/-!
# When instances share a name

An instance is declared under the name of its network and its own id, joined by a mark. Both parts
are texts of the user and may hold the mark themselves, so a name does not tell where the network
ends and the id starts. Two instances of different ids are declared under one name exactly if the
name of the one network goes on in that of the other one with a mark, and the ids make up for it.

Distinct ids are therefore not enough for distinct addresses. They are enough where no id holds
the end of a mark, or where no network's name holds the start of one; in particular they are for
instances of networks that are called alike.
-/

namespace CloudDiagram.Terraform

/-- The name of the second network goes on where that of the first one ends, with a mark up to its
last character and something more. The first id holds what the second network has more than the
first one, with the second mark and the second id behind it. The last character of the first mark
may be the first one of the second mark. -/
def Overlaps (network id other id' : String) : Prop :=
  ∃ between, other = network ++ "_ec2" ++ between ∧ "_" ++ id = between ++ "_ec2_" ++ id'

/-- Of two instances that overlap, the first one has the shorter network and the longer id. So
instances of networks that are called alike never overlap. -/
theorem Overlaps.lengths {network id other id' : String} (overlaps : Overlaps network id other id') :
    network.length < other.length ∧ id'.length < id.length := by
  obtain ⟨between, rfl, ids⟩ := overlaps
  have lengths := congrArg String.length ids
  have whole : "_ec2_".length = 5 := rfl
  have start : "_ec2".length = 4 := rfl
  have last : "_".length = 1 := rfl
  simp only [String.length_append] at lengths ⊢
  omega

/-- Instances that overlap are declared under one name: what the one network has
more than the other, the id of the other instance has more. -/
theorem Overlaps.instanceName_eq {network id other id' : String}
    (overlaps : Overlaps network id other id') :
    instanceName network id = instanceName other id' := by
  obtain ⟨between, rfl, ids⟩ := overlaps
  change network ++ "_ec2_" ++ id = network ++ "_ec2" ++ between ++ "_ec2_" ++ id'
  calc network ++ "_ec2_" ++ id
    _ = network ++ "_ec2" ++ ("_" ++ id) := String.toList_inj.mp (by simp)
    _ = network ++ "_ec2" ++ (between ++ "_ec2_" ++ id') := by rw [ids]
    _ = network ++ "_ec2" ++ between ++ "_ec2_" ++ id' := by simp only [String.append_assoc]

/-- A mark that stands behind a gap as well as at the start leaves no gap, or the gap starts with
it up to its last character. No other end of a mark is the start of one. -/
theorem gap_cases {gap id id' : List Char}
    (same : "_ec2_".toList ++ id = gap ++ ("_ec2_".toList ++ id')) :
    gap = [] ∧ id = id' ∨
      ∃ between, gap = "_ec2".toList ++ between ∧ '_' :: id = between ++ ("_ec2_".toList ++ id') := by
  -- by the first characters of the gap: one to three of them cannot be shifted onto the mark
  rcases gap with _ | ⟨a, _ | ⟨b, _ | ⟨c, _ | ⟨d, between⟩⟩⟩⟩
  · exact Or.inl ⟨rfl, List.append_cancel_left same⟩
  · simp at same
  · simp at same
  · simp at same
  · obtain ⟨rfl, rfl, rfl, rfl, ids⟩ := by simpa using same
    exact Or.inr ⟨between, rfl, by simpa using ids⟩

/-- Where the name of the one network is the start of the other's, instances of one name have the
same network and id, or they overlap. -/
theorem overlaps_of_gap {network id other id' : String} {gap : List Char}
    (longer : other.toList = network.toList ++ gap)
    (same : "_ec2_".toList ++ id.toList = gap ++ ("_ec2_".toList ++ id'.toList)) :
    network = other ∧ id = id' ∨ Overlaps network id other id' := by
  rcases gap_cases same with ⟨rfl, ids⟩ | ⟨between, rfl, ids⟩
  · refine Or.inl ⟨String.toList_inj.mp ?_, String.toList_inj.mp ids⟩
    rw [longer, List.append_nil]
  · refine Or.inr ⟨String.ofList between, String.toList_inj.mp ?_, String.toList_inj.mp ?_⟩
    · simp [longer]
    · simpa using ids

/-- Two instances are declared under one name exactly if they have the same network and id, or
overlap in one of the two orders. -/
theorem instanceName_eq_iff {network id other id' : String} :
    instanceName network id = instanceName other id' ↔
      network = other ∧ id = id' ∨ Overlaps network id other id' ∨ Overlaps other id' network id := by
  constructor
  · intro same
    have letters : network.toList ++ ("_ec2_".toList ++ id.toList) =
        other.toList ++ ("_ec2_".toList ++ id'.toList) := by
      simpa [instanceName] using congrArg String.toList same
    rcases List.append_eq_append_iff.mp letters with ⟨gap, longer, marks⟩ | ⟨gap, longer, marks⟩
    · rcases overlaps_of_gap longer marks with equal | overlaps
      · exact Or.inl equal
      · exact Or.inr (Or.inl overlaps)
    · rcases overlaps_of_gap longer marks with ⟨networks, ids⟩ | overlaps
      · exact Or.inl ⟨networks.symm, ids.symm⟩
      · exact Or.inr (Or.inr overlaps)
  · rintro (⟨rfl, rfl⟩ | overlaps | overlaps)
    · rfl
    · exact overlaps.instanceName_eq
    · exact overlaps.instanceName_eq.symm

/-- The ids of the instances among some nodes, in their order. Nodes of other kinds
are declared under other types and cannot share an address with an instance. -/
def instanceIds (nodes : List Node) : List String :=
  (nodes.filter fun node => node.kind? = some .compute).map Node.id

/-- Names are distinct exactly if ids are and no two of them overlap in their
networks. Two instances of one id would be placed alike, so ids alone settle the
first part. -/
theorem nodup_instanceNames_iff {place : String → String} {ids : List String} :
    (ids.map fun id => instanceName (place id) id).Nodup ↔
      ids.Nodup ∧ ∀ id ∈ ids, ∀ other ∈ ids, ¬Overlaps (place id) id (place other) other := by
  constructor
  · intro distinct
    refine ⟨distinct.of_map _, ?_⟩
    intro id member other member' overlaps
    have same : id = other :=
      List.inj_on_of_nodup_map distinct member member' overlaps.instanceName_eq
    subst same
    exact Nat.lt_irrefl _ overlaps.lengths.2
  · rintro ⟨distinct, apart⟩
    refine distinct.map_on ?_
    intro id member other member' same
    rcases instanceName_eq_iff.mp same with ⟨-, equal⟩ | overlaps | overlaps
    · exact equal
    · exact absurd overlaps (apart id member other member')
    · exact absurd overlaps (apart other member' id member)

/-- Ids that overlap hold the end of a mark, and the longer network holds the start
of one. This turns the exact condition into two simple ones that are sufficient. -/
theorem Overlaps.marks {network id other id' : String} (overlaps : Overlaps network id other id') :
    "_ec2".toList <:+: other.toList ∧ "ec2_".toList <:+: id.toList := by
  obtain ⟨between, rfl, ids⟩ := overlaps
  refine ⟨⟨network.toList, between.toList, by simp⟩, ?_⟩
  have letters : '_' :: id.toList = between.toList ++ ('_' :: ("ec2_".toList ++ id'.toList)) := by
    simpa using congrArg String.toList ids
  rcases List.cons_eq_append_iff.mp letters with ⟨-, whole⟩ | ⟨more, -, inside⟩
  · exact ⟨[], id'.toList, (List.cons.inj whole).2⟩
  · exact ⟨more ++ ['_'], id'.toList, by simp [inside]⟩

/-- Where no id holds the end of a mark, or no network's name the start of one,
nothing overlaps. Either half suffices, as an overlap needs both. -/
theorem not_overlaps_of_unmarked {place : String → String} {ids : List String}
    (unmarked : (∀ id ∈ ids, ¬"ec2_".toList <:+: id.toList) ∨
      ∀ id ∈ ids, ¬"_ec2".toList <:+: (place id).toList) :
    ∀ id ∈ ids, ∀ other ∈ ids, ¬Overlaps (place id) id (place other) other := by
  intro id member other member' overlaps
  obtain ⟨start, ending⟩ := overlaps.marks
  rcases unmarked with ids | networks
  · exact ids id member ending
  · exact networks other member' start

/-- The addresses of the instances are their names, under the type of instances.
Their distinctness is therefore that of the names. -/
theorem address?_of_instances (network : String → String) (nodes : List Node) :
    (nodes.filter fun node => node.kind? = some .compute).map (address? network) =
      ((instanceIds nodes).map fun id => instanceName (network id) id).map fun name =>
        some ⟨"aws_instance", name⟩ := by
  rw [instanceIds, List.map_map, List.map_map]
  refine List.map_congr_left ?_
  intro node member
  have compute := of_decide_eq_true (List.mem_filter.mp member).2
  obtain ⟨id, payload, position⟩ := node
  cases payload with
  | compute attributes => rfl
  | network _ | storage _ | unrecognized _ _ | malformed _ => cases compute

/-- The headers of the instances hold their names as literals, and literals of
different names differ. -/
theorem nodeHeader?_of_instances (settings : GeneratorSettings) (nodes : List Node)
    (edges : List Connection) :
    (nodes.filter fun node => node.kind? = some .compute).map (nodeHeader? settings nodes edges) =
      ((instanceIds nodes).map fun id =>
        instanceName (placedIn settings nodes edges id) id).map fun name =>
          some ("resource \"aws_instance\" " ++ literal name ++ " \x7b") := by
  rw [instanceIds, List.map_map, List.map_map]
  refine List.map_congr_left ?_
  intro node member
  exact nodeHeader?_of_compute settings nodes edges
    (of_decide_eq_true (List.mem_filter.mp member).2)

/-- In every diagram, the addresses of the instances are distinct exactly if their
ids are and no two of them overlap, each in the network that it is placed in; and so
are the headers that the instances add to the code. None overlap if no id of an
instance holds `ec2_`, or if no instance is placed in a network whose name holds
`_ec2`. -/
theorem instances_distinct_iff (settings : GeneratorSettings) (nodes : List Node)
    (edges : List Connection) :
    let instances := nodes.filter fun node => node.kind? = some .compute
    let ids := instanceIds nodes
    let network := networkName settings (Links.ofLists nodes edges) nodes
    let place := placedIn settings nodes edges
    let apart := ∀ id ∈ ids, ∀ other ∈ ids, ¬Overlaps (place id) id (place other) other
    ((instances.map (address? network)).Nodup ↔ ids.Nodup ∧ apart) ∧
      ((instances.map (nodeHeader? settings nodes edges)).Nodup ↔ ids.Nodup ∧ apart) ∧
      ((∀ id ∈ ids, ¬"ec2_".toList <:+: id.toList) ∨
        (∀ id ∈ ids, ¬"_ec2".toList <:+: (place id).toList) → apart) := by
  intro instances ids network place apart
  have names : (ids.map fun id => instanceName (place id) id).Nodup ↔ ids.Nodup ∧ apart :=
    nodup_instanceNames_iff
  have network_eq : network = place := networkName_ofLists settings nodes edges
  refine ⟨?_, ?_, not_overlaps_of_unmarked⟩
  · rw [address?_of_instances, network_eq, List.nodup_map_iff, names]
    intro name other same
    exact (Address.mk.inj (Option.some.inj same)).2
  · rw [nodeHeader?_of_instances, List.nodup_map_iff, names]
    intro name other same
    have letters := congrArg String.toList (Option.some.inj same)
    simp only [String.toList_append, List.append_assoc] at letters
    exact (literal_append_inj (List.append_cancel_left letters)).1

/-- Two instances of different ids in networks of different names are declared under one address:
the name of the one network and the id of the other instance both hold the mark. -/
theorem instances_share_address :
    ¬∀ (settings : GeneratorSettings) (nodes : List Node) (edges : List Connection),
      (nodes.map Node.id).Nodup → ∀ first ∈ nodes, ∀ second ∈ nodes,
        first.kind? = some .compute → second.kind? = some .compute → first ≠ second →
        address? (networkName settings (Links.ofLists nodes edges) nodes) first ≠
          address? (networkName settings (Links.ofLists nodes edges) nodes) second := by
  intro unique
  let machine : Payload := .compute { instanceType := "t2.micro", machineImage := "ami-1" }
  let nodes : List Node := [
    { id := "n1", payload := .network { name := "prod", cidrBlock := "10.0.0.0/16" } },
    { id := "n2", payload := .network { name := "prod_ec2_web", cidrBlock := "10.1.0.0/16" } },
    { id := "web_ec2_1", payload := machine },
    { id := "1", payload := machine }]
  let edges : List Connection := [⟨"e1", "web_ec2_1", "n1"⟩, ⟨"e2", "1", "n2"⟩]
  have different := unique {} nodes edges (by decide) nodes[2] (by simp [nodes]) nodes[3]
    (by simp [nodes]) rfl rfl (by decide)
  rw [networkName_ofLists] at different
  exact different (by decide)

end CloudDiagram.Terraform
