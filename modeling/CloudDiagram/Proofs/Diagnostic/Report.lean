import CloudDiagram.Diagnostic.Rules
import CloudDiagram.Proofs.Diagram.Placement
import CloudDiagram.Proofs.Terraform.Headers
import CloudDiagram.Proofs.Terraform.Readable
import Mathlib.Data.List.Infix

/-!
# What is reported about the code is true of it

The code of a diagram is put together from what each node adds to it, which is nothing or
a block, and a block starts with its header. What the rules about nodes report is read off
these pieces of text: a node is reported as left out if it adds nothing, an instance by
the network that its header names, and a clash of addresses where a header stands a second
time. The rules find this out on their own ways, by the payload, by the links and by a
list of owners, and they report in the order of the nodes, each thing once.

A header determines its address, so a header that stands twice is an address that two
nodes have; the first of them is the one whose address entered the list of owners.
-/

namespace CloudDiagram

open Terraform

namespace Terraform

/-- What a node adds to the code of a diagram; nothing if it cannot be read. It is
read off the printed text, not off the node. -/
def nodeCode (settings : GeneratorSettings) (nodes : List Node) (edges : List Connection)
    (node : Node) : String :=
  ((block? settings (networkName settings (Links.ofLists nodes edges) nodes) node).map
    fun block => printBlocks [block]).getD ""

/-- The first line of a text, without its end. Of a printed block it is the header.
-/
def firstLine (text : String) : String := String.ofList (text.toList.takeWhile (· ≠ '\n'))

/-- The header that a node adds to the code of a diagram, if it adds anything.
Addresses clash where two of these texts are equal. -/
def nodeHeader? (settings : GeneratorSettings) (nodes : List Node) (edges : List Connection)
    (node : Node) : Option String :=
  let code := nodeCode settings nodes edges node
  if code = "" then none else some (firstLine code)

/-- Blocks that are found node by node are printed node by node. Nothing is printed
for a node without a block. -/
theorem printBlocks_filterMap (block : Node → Option Block) (nodes : List Node) :
    printBlocks (nodes.filterMap block) = String.join
      (nodes.map fun node => ((block node).map fun found => printBlocks [found]).getD "") := by
  induction nodes with
  | nil => rfl
  | cons node rest inductionHypothesis =>
    rw [List.map_cons, String.join_cons, ← inductionHypothesis]
    cases found : block node with
    | none => simp [List.filterMap_cons_none found]
    | some block =>
      rw [List.filterMap_cons_some found, ← List.singleton_append, printBlocks_append]
      rfl

/-- The code of a diagram is what its nodes add to it, one after another. What is
said of the pieces below is therefore said of the code. -/
theorem generate_eq_join (settings : GeneratorSettings) (nodes : List Node)
    (edges : List Connection) :
    generate settings nodes edges = String.join (nodes.map (nodeCode settings nodes edges)) :=
  printBlocks_filterMap _ nodes

/-- The first line of a printed block is its header, because an address never breaks
a line. -/
theorem firstLine_printBlocks (block : Block) :
    firstLine (printBlocks [block]) = Block.header block.address := by
  have single := newline_not_mem_header block.address
  have lines : (printBlocks [block]).toList = (Block.header block.address).toList ++
      '\n' :: (unlines (block.items.flatMap Item.lines ++ ["\x7d", ""])).toList := by
    simp [printBlocks, Block.lines, unlines]
  have line : ∀ c ∈ (Block.header block.address).toList, decide (c ≠ '\n') = true := by
    intro c member
    exact decide_eq_true fun same => single (same ▸ member)
  rw [firstLine, lines, List.takeWhile_append_of_pos line]
  simp

/-- A printed block is not empty, so a node that adds nothing can be told from the
others. -/
theorem printBlocks_ne_empty (block : Block) : printBlocks [block] ≠ "" := by
  intro empty
  have letters := congrArg String.toList empty
  simp [printBlocks, Block.lines, unlines] at letters

/-- The header that a node adds is that of its address, and it adds one exactly if
it has an address. -/
theorem nodeHeader?_eq (settings : GeneratorSettings) (nodes : List Node)
    (edges : List Connection) (node : Node) :
    nodeHeader? settings nodes edges node =
      (address? (networkName settings (Links.ofLists nodes edges) nodes) node).map
        Block.header := by
  rw [← address_block? settings, Option.map_map, nodeHeader?, nodeCode]
  cases block? settings (networkName settings (Links.ofLists nodes edges) nodes) node with
  | none => rfl
  | some block => simp [printBlocks_ne_empty, firstLine_printBlocks]

/-- A node adds nothing to the code exactly if it is of no kind. Nodes of a kind
always have an address, and so a block. -/
theorem nodeCode_eq_empty_iff {settings : GeneratorSettings} {nodes : List Node}
    {edges : List Connection} {node : Node} :
    nodeCode settings nodes edges node = "" ↔ node.kind? = none := by
  have header := nodeHeader?_eq settings nodes edges node
  rw [nodeHeader?] at header
  split at header
  · rename_i empty
    exact iff_of_true empty (address?_eq_none_iff.mp (Option.map_eq_none_iff.mp header.symm))
  · rename_i code
    refine iff_of_false code ?_
    intro unreadable
    rw [address?_eq_none_iff.mpr unreadable] at header
    cases header

end Terraform

/-- What is shown of a diagnostic: its id, its rule and its message. The severity
follows from the rule. -/
def Diagnostic.shown (diagnostic : Diagnostic) : String × String × String :=
  (diagnostic.id, diagnostic.finding.rule, diagnostic.message)

/-- What is shown of the diagnostics that come from some rules, in the order in
which they are reported and as often. -/
def reported (rules : List String) (diagnostics : List Diagnostic) :
    List (String × String × String) :=
  (diagnostics.filter fun diagnostic => diagnostic.finding.rule ∈ rules).map Diagnostic.shown

/-- All diagnostics come from the given rules. It holds of the part that one rule
adds to the findings. -/
def FromRules (rules : List String) (diagnostics : List Diagnostic) : Prop :=
  ∀ diagnostic ∈ diagnostics, diagnostic.finding.rule ∈ rules

/-- Reports of two lists of diagnostics follow each other, so the findings can be
searched rule by rule. -/
theorem reported_append (rules : List String) (first second : List Diagnostic) :
    reported rules (first ++ second) = reported rules first ++ reported rules second := by
  simp [reported]

/-- Nothing is shown exactly if no diagnostic comes from the rules. -/
theorem reported_eq_nil_iff {rules : List String} {diagnostics : List Diagnostic} :
    reported rules diagnostics = [] ↔
      ∀ diagnostic ∈ diagnostics, diagnostic.finding.rule ∉ rules := by
  simp [reported, List.filter_eq_nil_iff]

/-- Diagnostics from the rules in question are all shown, none of them left out. -/
theorem FromRules.reported_eq {rules : List String} {diagnostics : List Diagnostic}
    (fromRules : FromRules rules diagnostics) :
    reported rules diagnostics = diagnostics.map Diagnostic.shown := by
  have all : diagnostics.filter (fun diagnostic => diagnostic.finding.rule ∈ rules) =
      diagnostics := by
    rw [List.filter_eq_self]
    intro diagnostic member
    exact decide_eq_true (fromRules diagnostic member)
  rw [reported, all]

/-- Diagnostics from other rules are not shown. With the lemma before, a report of
some rules is what these rules add. -/
theorem FromRules.reported_eq_nil {rules others : List String} {diagnostics : List Diagnostic}
    (fromRules : FromRules others diagnostics) (apart : ∀ rule ∈ others, rule ∉ rules) :
    reported rules diagnostics = [] := by
  have none : diagnostics.filter (fun diagnostic => diagnostic.finding.rule ∈ rules) = [] := by
    rw [List.filter_eq_nil_iff]
    intro diagnostic member shown
    exact apart _ (fromRules diagnostic member) (of_decide_eq_true shown)
  rw [reported, none, List.map_nil]

namespace Rule

/-- Repeated ids come from their rule, whichever ids were seen before. -/
theorem fromRules_duplicateIds (nodes : List Node) :
    FromRules ["duplicate-id"] (duplicateIds nodes) := by
  have after (earlier : List String) :
      FromRules ["duplicate-id"] (duplicateIdsAfter earlier nodes) := by
    induction nodes generalizing earlier with
    | nil => simp [duplicateIdsAfter, FromRules]
    | cons node rest inductionHypothesis =>
      rw [duplicateIdsAfter]
      split
      · exact List.forall_mem_cons.mpr ⟨List.mem_cons_self, inductionHypothesis earlier⟩
      · exact inductionHypothesis (node.id :: earlier)
  exact after []

/-- Nodes that are left out come from the two rules for what cannot be read, one for
unknown kinds and one for all other payloads. -/
theorem fromRules_unreadableNodes (nodes : List Node) :
    FromRules ["malformed-node", "unknown-kind"] (unreadableNodes nodes) := by
  intro diagnostic member
  obtain ⟨node, _, found⟩ := List.mem_filterMap.mp member
  obtain ⟨finding, unreadable, rfl⟩ := Option.map_eq_some_iff.mp found
  cases payload : node.payload <;> rw [payload] at unreadable <;> cases unreadable <;>
    simp [Finding.rule]

/-- Dangling connections come from their rule and no other. -/
theorem fromRules_danglingEdges (links : Links) (edges : List Connection) :
    FromRules ["dangling-edge"] (danglingEdges links edges) :=
  List.forall_mem_map.mpr fun _ _ => List.mem_cons_self

/-- Reversed connections come from their rule and no other. -/
theorem fromRules_reversedContainments (nodes : List Node) (edges : List Connection) :
    FromRules ["reversed-containment"] (reversedContainments nodes edges) :=
  List.forall_mem_map.mpr fun _ _ => List.mem_cons_self

/-- Instances come from the two rules for placement, one for no network and one for
several. -/
theorem fromRules_placements (settings : GeneratorSettings) (links : Links) (nodes : List Node) :
    FromRules ["unplaced-compute", "ambiguous-network"] (placements settings links nodes) := by
  intro diagnostic member
  obtain ⟨node, _, found⟩ := List.mem_filterMap.mp member
  obtain ⟨finding, placed, rfl⟩ := Option.map_eq_some_iff.mp found
  match networks : links.networksOf nodes node.id with
  | [] | [_] | _ :: _ :: _ => rw [networks] at placed; cases placed <;> simp [Finding.rule]

/-- Repeated addresses come from their rule, whichever addresses are owned already.
-/
theorem fromRules_duplicateAddresses (address : Node → Option Address) (nodes : List Node) :
    FromRules ["duplicate-address"] (duplicateAddresses address nodes) := by
  have after (owned : List (Address × String)) :
      FromRules ["duplicate-address"] (duplicateAddressesAfter address owned nodes) := by
    induction nodes generalizing owned with
    | nil => simp [duplicateAddressesAfter, FromRules]
    | cons node rest inductionHypothesis =>
      rw [duplicateAddressesAfter]
      split
      · exact inductionHypothesis owned
      · split
        · exact List.forall_mem_cons.mpr ⟨List.mem_cons_self, inductionHypothesis owned⟩
        · exact inductionHypothesis _
  exact after []

/-- What is to be reported about a node that adds nothing to the code. The message
names the tag if there is one, and else says what is missing. -/
def leftOut (node : Node) : String × String × String :=
  match node.payload with
  | .unrecognized tag _ => (node.id, "unknown-kind",
    "Node `" ++ node.id ++ "` has unsupported kind `" ++ tag ++ "` and is left out of the code.")
  | _ => (node.id, "malformed-node",
    "Node `" ++ node.id ++ "` is missing its kind or attributes and is left out of the code.")

/-- What is to be reported about an instance whose header names a network, given the
network nodes that it is connected to: nothing if there is one. -/
def misplaced? (network id : String) : List Node → Option (String × String × String)
  | [] => some (id, "unplaced-compute",
    "Instance `" ++ id ++ "` is not connected to a network; it is placed in `" ++ network ++ "`.")
  | [_] => none
  | first :: second :: rest => some (id, "ambiguous-network",
    "Instance `" ++ id ++ "` is connected to " ++ toString (first :: second :: rest).length
      ++ " networks; only `" ++ network ++ "` is used.")

/-- What is to be reported about a node whose header one of the nodes before it has,
the first of which is the owner of the address. -/
def clash? (address : Node → Option Address) (header : Node → Option String) (before : List Node)
    (node : Node) : Option (String × String × String) := do
  let found ← address node
  let owner ← before.find? fun other => header other = header node
  return (node.id, "duplicate-address",
    "`" ++ found.type ++ "." ++ found.name ++ "` is generated by both `" ++ owner.id ++ "` and `"
      ++ node.id ++ "`.")

/-- The nodes that are reported as left out are those of no kind, in order and with
the message that fits their payload. -/
theorem shown_unreadableNodes (nodes : List Node) :
    (unreadableNodes nodes).map Diagnostic.shown =
      (nodes.filter fun node => node.kind? = none).map leftOut := by
  rw [unreadableNodes, List.map_filterMap, ← List.filterMap_eq_map, List.filterMap_filter]
  refine List.filterMap_congr ?_
  intro node _
  obtain ⟨id, payload, position⟩ := node
  cases payload <;> rfl

/-- The instances that are reported are those whose network targets are none or
several. The rule asks the links, and these find the same targets. -/
theorem shown_placements (settings : GeneratorSettings) (nodes : List Node)
    (edges : List Connection) :
    (placements settings (Links.ofLists nodes edges) nodes).map Diagnostic.shown =
      (nodes.filter fun node => node.kind? = some .compute).filterMap fun node =>
        misplaced? (placedIn settings nodes edges node.id) node.id
          (networkTargets nodes edges node.id) := by
  rw [placements, List.map_filterMap]
  refine List.filterMap_congr ?_
  intro node _
  rw [← networkName_ofLists, ← map_fst_networksOf, networkName, Links.containingNetwork?]
  generalize (Links.ofLists nodes edges).networksOf nodes node.id = networks
  rcases networks with _ | ⟨first, _ | ⟨second, rest⟩⟩
  · rfl
  · rfl
  · rw [List.map_cons, List.map_cons, misplaced?, ← List.map_cons, ← List.map_cons, List.length_map]
    rfl

/-- An address is reported at a node if a node before it has the address, and the
first such node is the owner. Nodes are taken with those before them, and the owned
addresses are those of the nodes before all of these. -/
theorem duplicateAddressesAfter_eq {address : Node → Option Address}
    {owned : List (Address × String)} (before nodes : List Node)
    (owners : ∀ found, owned.lookup found =
      (before.find? fun other => address other = some found).map Node.id) :
    duplicateAddressesAfter address owned nodes =
      (nodes.inits.zip nodes).filterMap fun (between, node) =>
        (address node).bind fun found =>
          ((before ++ between).find? fun other => address other = some found).map fun owner =>
            ⟨node.id, .duplicateAddress found owner.id⟩ := by
  induction nodes generalizing owned before with
  | nil => rfl
  | cons node rest inductionHypothesis =>
    rw [List.inits_cons, List.zip_cons_cons, List.zip_map_left, List.filterMap_cons,
      List.filterMap_map]
    -- behind this node, it is one of those before
    have behind (owned' : List (Address × String))
        (owners' : ∀ found, owned'.lookup found =
          ((before ++ [node]).find? fun other => address other = some found).map Node.id) :
        duplicateAddressesAfter address owned' rest =
          (rest.inits.zip rest).filterMap
            ((fun (between, node) =>
              (address node).bind fun found =>
                ((before ++ between).find? fun other => address other = some found).map fun owner =>
                  (⟨node.id, .duplicateAddress found owner.id⟩ : Diagnostic)) ∘
              Prod.map (node :: ·) id) := by
      rw [inductionHypothesis (before ++ [node]) owners']
      refine List.filterMap_congr ?_
      intro pair _
      simp
    cases named : address node with
    | none =>
      simp only [duplicateAddressesAfter, named]
      refine behind owned ?_
      intro found
      rw [owners found]
      simp [List.find?_append, named]
    | some found =>
      have owner := owners found
      cases held : owned.lookup found with
      | some id =>
        rw [held] at owner
        obtain ⟨first, standing, rfl⟩ := Option.map_eq_some_iff.mp owner.symm
        simp only [duplicateAddressesAfter, named, held]
        rw [behind owned]
        · simp [standing]
        · intro other
          rw [owners other]
          by_cases same : other = found
          · simp [same, standing]
          · have different : ¬found = other := fun equal => same equal.symm
            simp [List.find?_append, named, different]
      | none =>
        rw [held] at owner
        have unowned := Option.map_eq_none_iff.mp owner.symm
        simp only [duplicateAddressesAfter, named, held]
        rw [behind ((found, node.id) :: owned)]
        · simp [unowned]
        · intro other
          rw [List.lookup_cons, owners other]
          by_cases same : other = found
          · simp [same, unowned, List.find?_append, named]
          · have different : ¬found = other := fun equal => same equal.symm
            have unequal : (other == found) = false := beq_eq_false_iff_ne.mpr same
            simp [unequal, List.find?_append, named, different]

end Rule

/-- The addresses that are reported are those whose header stands at an earlier
node. The rule compares addresses, and headers determine them. -/
theorem shown_duplicateAddresses (settings : GeneratorSettings) (nodes : List Node)
    (edges : List Connection) :
    let address := address? (networkName settings (Links.ofLists nodes edges) nodes)
    (Rule.duplicateAddresses address nodes).map Diagnostic.shown =
      (nodes.inits.zip nodes).filterMap fun (before, node) =>
        Rule.clash? address (nodeHeader? settings nodes edges) before node := by
  intro address
  have injective : Function.Injective Block.header := fun _ _ => header_inj
  rw [Rule.duplicateAddresses, Rule.duplicateAddressesAfter_eq [] nodes (by simp),
    List.map_filterMap]
  refine List.filterMap_congr ?_
  rintro ⟨before, node⟩ _
  cases named : address node with
  | none => simp [Rule.clash?, named]
  | some found =>
    have sameHeader :
        (fun other => decide (nodeHeader? settings nodes edges other =
          nodeHeader? settings nodes edges node)) =
        fun other => decide (address other = some found) := by
      funext other
      rw [nodeHeader?_eq, nodeHeader?_eq, decide_eq_decide,
        (Option.map_injective injective).eq_iff, ← named]
    simp only [Rule.clash?, named, sameHeader, List.nil_append, Option.bind_eq_bind,
      Option.bind_some]
    cases before.find? fun other => decide (address other = some found) with
    | none => rfl
    | some owner => rfl

/-- The header of an instance names the network that its id is placed in, followed
by the id. This is the network that the message of a report has to name. -/
theorem nodeHeader?_of_compute (settings : GeneratorSettings) (nodes : List Node)
    (edges : List Connection) {node : Node} (compute : node.kind? = some .compute) :
    nodeHeader? settings nodes edges node =
      some ("resource \"aws_instance\" " ++
        literal (placedIn settings nodes edges node.id ++ "_ec2_" ++ node.id) ++ " \x7b") := by
  have address : address? (placedIn settings nodes edges) node =
      some ⟨"aws_instance", placedIn settings nodes edges node.id ++ "_ec2_" ++ node.id⟩ := by
    obtain ⟨id, payload, position⟩ := node
    cases payload with
    | compute attributes => rfl
    | network _ | storage _ | unrecognized _ _ | malformed _ => cases compute
  have type : literal "aws_instance" = "\"aws_instance\"" := by decide
  rw [nodeHeader?_eq, networkName_ofLists, address, Option.map_some, Block.header, type]
  exact congrArg some (String.toList_inj.mp (by simp))

/-- What is shown of the findings about a diagram is shown of those of each rule, in
the order in which the rules are asked. -/
theorem reported_diagnose (rules : List String) (settings : GeneratorSettings) (nodes : List Node)
    (edges : List Connection) :
    let links := Links.ofLists nodes edges
    reported rules (diagnose settings nodes edges) =
      reported rules (Rule.duplicateIds nodes) ++ reported rules (Rule.unreadableNodes nodes) ++
        reported rules (Rule.danglingEdges links edges) ++
        reported rules (Rule.reversedContainments nodes edges) ++
        reported rules (Rule.placements settings links nodes) ++
        reported rules
          (Rule.duplicateAddresses (address? (networkName settings links nodes)) nodes) := by
  simp only [diagnose, reported_append]

/-- The nodes that are reported as left out are those of no kind. No other rule adds
to this part of the report. -/
theorem reported_leftOut (settings : GeneratorSettings) (nodes : List Node)
    (edges : List Connection) :
    reported ["malformed-node", "unknown-kind"] (diagnose settings nodes edges) =
      (nodes.filter fun node => node.kind? = none).map Rule.leftOut := by
  rw [reported_diagnose,
    (Rule.fromRules_duplicateIds nodes).reported_eq_nil (by decide),
    (Rule.fromRules_unreadableNodes nodes).reported_eq,
    (Rule.fromRules_danglingEdges _ edges).reported_eq_nil (by decide),
    (Rule.fromRules_reversedContainments nodes edges).reported_eq_nil (by decide),
    (Rule.fromRules_placements settings _ nodes).reported_eq_nil (by decide),
    (Rule.fromRules_duplicateAddresses _ nodes).reported_eq_nil (by decide)]
  simp [Rule.shown_unreadableNodes]

/-- The instances that are reported are those whose network targets are none or
several. No other rule adds to this part of the report. -/
theorem reported_misplaced (settings : GeneratorSettings) (nodes : List Node)
    (edges : List Connection) :
    reported ["unplaced-compute", "ambiguous-network"] (diagnose settings nodes edges) =
      (nodes.filter fun node => node.kind? = some .compute).filterMap fun node =>
        Rule.misplaced? (placedIn settings nodes edges node.id) node.id
          (networkTargets nodes edges node.id) := by
  rw [reported_diagnose,
    (Rule.fromRules_duplicateIds nodes).reported_eq_nil (by decide),
    (Rule.fromRules_unreadableNodes nodes).reported_eq_nil (by decide),
    (Rule.fromRules_danglingEdges _ edges).reported_eq_nil (by decide),
    (Rule.fromRules_reversedContainments nodes edges).reported_eq_nil (by decide),
    (Rule.fromRules_placements settings _ nodes).reported_eq,
    (Rule.fromRules_duplicateAddresses _ nodes).reported_eq_nil (by decide)]
  simp [Rule.shown_placements]

/-- The clashes that are reported are those of headers that stand at an earlier
node. No other rule adds to this part of the report. -/
theorem reported_clashes (settings : GeneratorSettings) (nodes : List Node)
    (edges : List Connection) :
    reported ["duplicate-address"] (diagnose settings nodes edges) =
      (nodes.inits.zip nodes).filterMap fun (before, node) =>
        Rule.clash? (address? (networkName settings (Links.ofLists nodes edges) nodes))
          (nodeHeader? settings nodes edges) before node := by
  rw [reported_diagnose,
    (Rule.fromRules_duplicateIds nodes).reported_eq_nil (by decide),
    (Rule.fromRules_unreadableNodes nodes).reported_eq_nil (by decide),
    (Rule.fromRules_danglingEdges _ edges).reported_eq_nil (by decide),
    (Rule.fromRules_reversedContainments nodes edges).reported_eq_nil (by decide),
    (Rule.fromRules_placements settings _ nodes).reported_eq_nil (by decide),
    (Rule.fromRules_duplicateAddresses _ nodes).reported_eq]
  exact shown_duplicateAddresses settings nodes edges

/-- The code of a diagram is put together from what its nodes add to it, and what is
reported about nodes is read off these pieces. Exactly the nodes that add nothing
are reported as left out. Of the instances exactly those with no network target or
with several are reported, and the network named in the report is the one in the
header. An address is reported at exactly the nodes whose header an earlier node
has, and the first of these is named as the owner. All reports come once and in the
order of the nodes. -/
theorem reports_describe_code (settings : GeneratorSettings) (nodes : List Node)
    (edges : List Connection) :
    let code := nodeCode settings nodes edges
    let header := nodeHeader? settings nodes edges
    let address := address? (networkName settings (Links.ofLists nodes edges) nodes)
    let network := placedIn settings nodes edges
    let findings := diagnose settings nodes edges
    generate settings nodes edges = String.join (nodes.map code) ∧
      reported ["malformed-node", "unknown-kind"] findings =
        (nodes.filter fun node => code node = "").map Rule.leftOut ∧
      reported ["unplaced-compute", "ambiguous-network"] findings =
        ((nodes.filter fun node => node.kind? = some .compute).filterMap fun node =>
          Rule.misplaced? (network node.id) node.id (networkTargets nodes edges node.id)) ∧
      (∀ node ∈ nodes, node.kind? = some .compute →
        header node = some ("resource \"aws_instance\" " ++
          literal (network node.id ++ "_ec2_" ++ node.id) ++ " \x7b") ∧
        (networkTargets nodes edges node.id = [] → network node.id = settings.placeholder)) ∧
      reported ["duplicate-address"] findings =
        (nodes.inits.zip nodes).filterMap fun (before, node) =>
          Rule.clash? address header before node := by
  intro code header address network findings
  refine ⟨generate_eq_join settings nodes edges, ?_, reported_misplaced settings nodes edges, ?_,
    reported_clashes settings nodes edges⟩
  · have empty :
        (fun node => decide (code node = "")) = fun node => decide (node.kind? = none) := by
      funext node
      exact decide_eq_decide.mpr nodeCode_eq_empty_iff
    rw [empty]
    exact reported_leftOut settings nodes edges
  · intro node _ compute
    refine ⟨nodeHeader?_of_compute settings nodes edges compute, ?_⟩
    intro nowhere
    simp [network, placedIn, nowhere]

end CloudDiagram
