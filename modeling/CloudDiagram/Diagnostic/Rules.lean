import CloudDiagram.Diagnostic.Basic
import CloudDiagram.Terraform.Code

/-!
# What is found in a diagram

The code generator takes any diagram and says nothing about what it left out or
had to choose. The findings say it: nodes without code, instances without a
network or with several, connections that lead nowhere or the wrong way, and ids
and addresses that are not unique. Findings come rule by rule, and within a rule
in the order of the nodes or connections.
-/

namespace CloudDiagram

open Terraform

namespace Rule

/-- Nodes whose id stands among the given ones or at an earlier node. The ids that
were passed are carried along, which is what the facts about this rule are an
induction on. -/
def duplicateIdsAfter (earlier : List String) : List Node → List Diagnostic
  | [] => []
  | node :: rest =>
    if node.id ∈ earlier then ⟨node.id, .duplicateId⟩ :: duplicateIdsAfter earlier rest
    else duplicateIdsAfter (node.id :: earlier) rest

/-- Nodes whose id an earlier node has. The first node of an id is not reported, and
each later one is. -/
def duplicateIds (nodes : List Node) : List Diagnostic := duplicateIdsAfter [] nodes

/-- What keeps a payload from becoming code, if anything does. A payload that is of
no known kind is told apart from one that makes no sense. -/
def unreadable? : Payload → Option Finding
  | .malformed _ => some .malformedNode
  | .unrecognized tag _ => some (.unknownKind tag)
  | .network _ | .compute _ | .storage _ => none

/-- Nodes that are left out of the code, in their order, with the reason for each of
them. -/
def unreadableNodes (nodes : List Node) : List Diagnostic :=
  nodes.filterMap fun node => (unreadable? node.payload).map (⟨node.id, ·⟩)

/-- Connections with an end that is no node's id. Each of them is reported once,
also if both of its ends are. -/
def danglingEdges (links : Links) (edges : List Connection) : List Diagnostic :=
  (edges.filter links.isDangling).map fun edge =>
    ⟨edge.id, .danglingEdge edge.source edge.target⟩

/-- The kind of the first node of an id, if there is one and it is readable. Of
several nodes of one id the others are not looked at. -/
def kindOf? (nodes : List Node) (id : String) : Option Kind :=
  (nodes.find? fun node => node.id = id).bind Node.kind?

/-- Connections from a network to an instance. They place nothing, and are most
likely meant the other way round. -/
def reversedContainments (nodes : List Node) (edges : List Connection) : List Diagnostic :=
  (edges.filter fun edge =>
      kindOf? nodes edge.source = some .network ∧ kindOf? nodes edge.target = some .compute).map
    fun edge => ⟨edge.id, .reversedContainment edge.source edge.target⟩

/-- What is to be said about an instance connected to the given networks. One
network is what is expected; with none the placeholder stands in, and of several the
first counts. -/
def placement? (settings : GeneratorSettings) : List (Node × Network) → Option Finding
  | [] => some (.unplacedCompute settings.placeholder)
  | [_] => none
  | first :: second :: rest =>
    some (.ambiguousNetwork (first :: second :: rest).length first.2.name)

/-- Instances in no network or in several, in the order of the nodes. Nodes of other
kinds are not placed, so nothing is said about them. -/
def placements (settings : GeneratorSettings) (links : Links) (nodes : List Node) :
    List Diagnostic :=
  (nodes.filter fun node => node.kind? = some .compute).filterMap fun node =>
    (placement? settings (links.networksOf nodes node.id)).map (⟨node.id, ·⟩)

/-- Nodes whose address is among the owned ones or is that of an earlier node. The
owner of an address is the first node that has it. -/
def duplicateAddressesAfter (address : Node → Option Address) (owned : List (Address × String)) :
    List Node → List Diagnostic
  | [] => []
  | node :: rest =>
    match address node with
    | none => duplicateAddressesAfter address owned rest
    | some found =>
      match owned.lookup found with
      | some owner =>
        ⟨node.id, .duplicateAddress found owner⟩ :: duplicateAddressesAfter address owned rest
      | none => duplicateAddressesAfter address ((found, node.id) :: owned) rest

/-- Nodes whose address an earlier node has. Nodes without an address are left out
of the code, and take none. -/
def duplicateAddresses (address : Node → Option Address) (nodes : List Node) : List Diagnostic :=
  duplicateAddressesAfter address [] nodes

end Rule

/-- All findings about a diagram, rule by rule, and within a rule in the order of
the list that it goes through. One node may be named by several rules. -/
def diagnose (settings : GeneratorSettings) (nodes : List Node) (edges : List Connection) :
    List Diagnostic :=
  let links := Links.ofLists nodes edges
  Rule.duplicateIds nodes
    ++ Rule.unreadableNodes nodes
    ++ Rule.danglingEdges links edges
    ++ Rule.reversedContainments nodes edges
    ++ Rule.placements settings links nodes
    ++ Rule.duplicateAddresses (address? (networkName settings links nodes)) nodes

end CloudDiagram
