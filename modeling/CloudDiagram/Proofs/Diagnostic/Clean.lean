import CloudDiagram.Diagnostic.Rules
import CloudDiagram.Proofs.Diagram.Placement
import Mathlib.Data.List.Nodup

/-!
# A diagram without findings is well formed

Each rule is silent exactly if the diagram has the property that the rule watches over.
The rules look at a diagram in different ways: ids are compared with those seen before,
the kind of an end is that of the first node of its id, and placement is read off the
links. These views agree with the plain properties as soon as ids are distinct, which is
what the first rule says; so all rules are silent together exactly if the diagram has
all the properties.
-/

namespace CloudDiagram

open Terraform

/-- What can be asked of a diagram before its code says all that was drawn. None of
the properties mentions a rule or the order in which rules look at the diagram. -/
structure WellFormed (settings : GeneratorSettings) (nodes : List Node) (edges : List Connection) :
    Prop where
  /-- No two nodes have the same id. -/
  distinctIds : (nodes.map Node.id).Nodup
  /-- Every node is of a kind that is written as code. -/
  readable : ∀ node ∈ nodes, node.kind? ≠ none
  /-- Both ends of every connection are nodes. -/
  connected : ∀ edge ∈ edges,
    (∃ node ∈ nodes, node.id = edge.source) ∧ ∃ node ∈ nodes, node.id = edge.target
  /-- No connection runs from a network to an instance. -/
  inward : ∀ edge ∈ edges, ¬((∃ node ∈ nodes, node.id = edge.source ∧ node.kind? = some .network) ∧
    ∃ node ∈ nodes, node.id = edge.target ∧ node.kind? = some .compute)
  /-- Connections lead from every instance to one network node, no more and no less. -/
  placed : ∀ node ∈ nodes, node.kind? = some .compute →
    (networkTargets nodes edges node.id).length = 1
  /-- No two nodes are declared under the same address. -/
  distinctAddresses :
    (nodes.map (address? (networkName settings (Links.ofLists nodes edges) nodes))).Nodup

namespace Rule

/-- Ids are compared with those given and with those of earlier nodes. The given
ones make the induction go through; they are none at the start. -/
theorem duplicateIdsAfter_eq_nil_iff {earlier : List String} {nodes : List Node} :
    duplicateIdsAfter earlier nodes = [] ↔
      (nodes.map Node.id).Nodup ∧ ∀ node ∈ nodes, node.id ∉ earlier := by
  induction nodes generalizing earlier with
  | nil => simp [duplicateIdsAfter]
  | cons node rest inductionHypothesis =>
    by_cases seen : node.id ∈ earlier
    · simp [duplicateIdsAfter, seen]
    · rw [duplicateIdsAfter, if_neg seen, inductionHypothesis]
      constructor
      · rintro ⟨distinct, unseen⟩
        have absent : node.id ∉ rest.map Node.id := by
          intro member
          obtain ⟨other, later, same⟩ := List.mem_map.mp member
          exact unseen other later (same ▸ List.mem_cons_self)
        refine ⟨List.nodup_cons.mpr ⟨absent, distinct⟩, List.forall_mem_cons.mpr ⟨seen, ?_⟩⟩
        intro other later member
        exact unseen other later (List.mem_cons_of_mem _ member)
      · rintro ⟨distinct, unseen⟩
        obtain ⟨absent, restDistinct⟩ := List.nodup_cons.mp distinct
        refine ⟨restDistinct, ?_⟩
        intro other later member
        rcases List.mem_cons.mp member with same | member
        · exact absent (same ▸ List.mem_map_of_mem later)
        · exact unseen other (List.mem_cons_of_mem _ later) member

/-- No id is reported exactly if ids are distinct. All other rules may then rely on
it. -/
theorem duplicateIds_eq_nil_iff {nodes : List Node} :
    duplicateIds nodes = [] ↔ (nodes.map Node.id).Nodup := by
  simp [duplicateIds, duplicateIdsAfter_eq_nil_iff]

/-- What a payload is reported for depends on whether it is of a kind, not on what
it holds. -/
theorem unreadable?_eq_none_iff {payload : Payload} :
    unreadable? payload = none ↔ payload.kind? ≠ none := by
  cases payload <;> simp [unreadable?, Payload.kind?]

/-- No node is reported as left out exactly if every node is of a kind, and so has a
block. -/
theorem unreadableNodes_eq_nil_iff {nodes : List Node} :
    unreadableNodes nodes = [] ↔ ∀ node ∈ nodes, node.kind? ≠ none := by
  simp [unreadableNodes, List.filterMap_eq_nil_iff, unreadable?_eq_none_iff, Node.kind?]

/-- No connection is reported as dangling exactly if all ends are nodes. The links
know the ids of nodes and no others, so an end alone does not make an id known. -/
theorem danglingEdges_eq_nil_iff {nodes : List Node} {edges : List Connection} :
    danglingEdges (Links.ofLists nodes edges) edges = [] ↔ ∀ edge ∈ edges,
      (∃ node ∈ nodes, node.id = edge.source) ∧ ∃ node ∈ nodes, node.id = edge.target := by
  simp only [danglingEdges, List.map_eq_nil_iff, List.filter_eq_nil_iff, Links.isDangling,
    Bool.or_eq_true, Bool.not_eq_true', not_or, Bool.not_eq_false, Links.known_ofLists]

/-- Where ids are distinct, an id has the kind of any node that carries it. The rule
takes the first node of an id, which is then the only one. -/
theorem kindOf?_eq_some_iff {nodes : List Node} (distinct : (nodes.map Node.id).Nodup)
    {id : String} {kind : Kind} :
    kindOf? nodes id = some kind ↔ ∃ node ∈ nodes, node.id = id ∧ node.kind? = some kind := by
  induction nodes with
  | nil => simp [kindOf?]
  | cons node rest inductionHypothesis =>
    obtain ⟨absent, restDistinct⟩ := List.nodup_cons.mp distinct
    have later := inductionHypothesis restDistinct
    rw [kindOf?] at later ⊢
    by_cases found : node.id = id
    · have others : ∀ other ∈ rest, other.id ≠ id := by
        intro other member same
        exact absent (List.mem_map.mpr ⟨other, member, same.trans found.symm⟩)
      constructor
      · intro kindly
        exact ⟨node, List.mem_cons_self, found, by simpa [found] using kindly⟩
      · rintro ⟨other, member, same, kindly⟩
        rcases List.mem_cons.mp member with rfl | member
        · simpa [found] using kindly
        · exact absurd same (others other member)
    · simpa [found] using later

/-- Where ids are distinct, no connection is reported as reversed exactly if none
runs from a network to an instance. -/
theorem reversedContainments_eq_nil_iff {nodes : List Node} {edges : List Connection}
    (distinct : (nodes.map Node.id).Nodup) :
    reversedContainments nodes edges = [] ↔ ∀ edge ∈ edges,
      ¬((∃ node ∈ nodes, node.id = edge.source ∧ node.kind? = some .network) ∧
        ∃ node ∈ nodes, node.id = edge.target ∧ node.kind? = some .compute) := by
  simp only [reversedContainments, List.map_eq_nil_iff, List.filter_eq_nil_iff,
    kindOf?_eq_some_iff distinct, decide_eq_true_eq]

/-- Nothing is said about an instance exactly if it is connected to one network.
None and several are both reported, under different rules. -/
theorem placement?_eq_none_iff {settings : GeneratorSettings} {networks : List (Node × Network)} :
    placement? settings networks = none ↔ networks.length = 1 := by
  match networks with
  | [] => simp [placement?]
  | [_] => simp [placement?]
  | _ :: _ :: _ => simp [placement?]

/-- No instance is reported exactly if each is connected to one network node,
however many connections lead to that node. -/
theorem placements_eq_nil_iff {settings : GeneratorSettings} {nodes : List Node}
    {edges : List Connection} :
    placements settings (Links.ofLists nodes edges) nodes = [] ↔
      ∀ node ∈ nodes, node.kind? = some .compute →
        (networkTargets nodes edges node.id).length = 1 := by
  simp [placements, List.filterMap_eq_nil_iff, placement?_eq_none_iff, ← map_fst_networksOf]

/-- Addresses are compared with the owned ones and with those of earlier nodes. An
address that is reported keeps its first owner, so the list of owners only grows by
new ones. -/
theorem duplicateAddressesAfter_eq_nil_iff {address : Node → Option Address}
    {owned : List (Address × String)} {nodes : List Node} :
    duplicateAddressesAfter address owned nodes = [] ↔
      (nodes.filterMap address).Nodup ∧
        ∀ found ∈ nodes.filterMap address, owned.lookup found = none := by
  induction nodes generalizing owned with
  | nil => simp [duplicateAddressesAfter]
  | cons node rest inductionHypothesis =>
    cases named : address node with
    | none =>
      simp only [duplicateAddressesAfter, named, List.filterMap_cons_none named]
      exact inductionHypothesis
    | some found =>
      rw [List.filterMap_cons_some named, List.nodup_cons, List.forall_mem_cons]
      cases held : owned.lookup found with
      | some owner => simp [duplicateAddressesAfter, named, held]
      | none =>
        simp only [duplicateAddressesAfter, named, held, inductionHypothesis]
        -- an address that is owned from now on is one that no later node may have
        have free (other : Address) : ((found, node.id) :: owned).lookup other = none ↔
            other ≠ found ∧ owned.lookup other = none := by
          by_cases same : other = found
          · simp [same]
          · have unequal : (other == found) = false := beq_eq_false_iff_ne.mpr same
            simp only [List.lookup_cons, unequal, ne_eq, same, not_false_eq_true, true_and]
        constructor
        · rintro ⟨distinct, unowned⟩
          have absent : found ∉ rest.filterMap address := by
            intro member
            exact ((free found).mp (unowned found member)).1 rfl
          refine ⟨⟨absent, distinct⟩, trivial, ?_⟩
          intro other member
          exact ((free other).mp (unowned other member)).2
        · rintro ⟨⟨absent, distinct⟩, _, unowned⟩
          refine ⟨distinct, ?_⟩
          intro other member
          refine (free other).mpr ⟨?_, unowned other member⟩
          rintro rfl
          exact absent member

/-- No address is reported exactly if the addresses are distinct, where nodes
without an address are left out. -/
theorem duplicateAddresses_eq_nil_iff {address : Node → Option Address} {nodes : List Node} :
    duplicateAddresses address nodes = [] ↔ (nodes.filterMap address).Nodup := by
  simp [duplicateAddresses, duplicateAddressesAfter_eq_nil_iff]

end Rule

/-- Where every node has an address, the addresses of the nodes are those that are
there. -/
theorem map_some_filterMap {address : Node → Option Address} {nodes : List Node}
    (named : ∀ node ∈ nodes, address node ≠ none) :
    (nodes.filterMap address).map some = nodes.map address := by
  rw [List.map_filterMap, ← List.filterMap_eq_map]
  refine List.filterMap_congr ?_
  intro node member
  obtain ⟨found, held⟩ := Option.ne_none_iff_exists.mp (named node member)
  simp [← held]

/-- Where every node has an address, addresses repeat among the nodes exactly as
they do in the list of those that are there. -/
theorem nodup_filterMap_iff {address : Node → Option Address} {nodes : List Node}
    (named : ∀ node ∈ nodes, address node ≠ none) :
    (nodes.filterMap address).Nodup ↔ (nodes.map address).Nodup := by
  rw [← map_some_filterMap named, List.nodup_map_iff fun _ _ => Option.some.inj]

/-- There is nothing to report about a diagram exactly if it is well formed: ids are
distinct, every node is of a kind that is written as code, every end of a connection
is a node, no connection runs from a network to an instance, connections lead from
every instance to exactly one network node, and addresses are distinct.

Proof: the diagnostics are empty exactly if each rule is silent. Two of the rules
agree with the plain properties only under others: reversed connections need
distinct ids, and addresses of nodes need that every node has one. -/
theorem diagnose_eq_nil_iff (settings : GeneratorSettings) (nodes : List Node)
    (edges : List Connection) :
    diagnose settings nodes edges = [] ↔ WellFormed settings nodes edges := by
  have addressed (readable : ∀ node ∈ nodes, node.kind? ≠ none) (network : String → String) :
      ∀ node ∈ nodes, address? network node ≠ none := by
    intro node member
    have kindly := readable node member
    rw [Node.kind?] at kindly
    rw [address?]
    cases payload : node.payload <;> simp_all [Payload.kind?]
  simp only [diagnose, List.append_eq_nil_iff, Rule.duplicateIds_eq_nil_iff,
    Rule.unreadableNodes_eq_nil_iff, Rule.danglingEdges_eq_nil_iff, Rule.placements_eq_nil_iff,
    Rule.duplicateAddresses_eq_nil_iff]
  constructor
  · rintro ⟨⟨⟨⟨⟨distinctIds, readable⟩, connected⟩, silent⟩, placed⟩, distinct⟩
    exact {
      distinctIds, readable, connected, placed
      inward := (Rule.reversedContainments_eq_nil_iff distinctIds).mp silent
      distinctAddresses := (nodup_filterMap_iff (addressed readable _)).mp distinct }
  · rintro ⟨distinctIds, readable, connected, inward, placed, distinct⟩
    have silent := (Rule.reversedContainments_eq_nil_iff distinctIds).mpr inward
    exact ⟨⟨⟨⟨⟨distinctIds, readable⟩, connected⟩, silent⟩, placed⟩,
      (nodup_filterMap_iff (addressed readable _)).mpr distinct⟩

end CloudDiagram
