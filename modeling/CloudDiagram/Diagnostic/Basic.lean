import CloudDiagram.Json.Writer
import CloudDiagram.Terraform.Block

/-!
# Diagnostics

A finding is what may be wrong with a node or a connection, and a diagnostic is a
finding with the id that it is about. The rule that is broken, how serious that
is, and the words for it all follow from the finding.
-/

namespace CloudDiagram

open Json Terraform

/-- How serious a finding is. No finding keeps the code from being generated, so
there is no severity above a warning. -/
inductive Severity where
  /-- Likely a mistake. -/
  | warning
  /-- A choice was made that the user may not expect. -/
  | info
deriving DecidableEq, Repr

/-- The word for a severity, as it stands in the text of a diagnostic. -/
def Severity.word : Severity → String
  | warning => "warning"
  | info => "info"

/-- What was found about a node or connection. A finding has all that its message
names, except for the id that it is about. -/
inductive Finding where
  /-- An earlier node has the same id. -/
  | duplicateId
  /-- The node's payload makes no sense. -/
  | malformedNode
  /-- The node is of a kind without code. -/
  | unknownKind (tag : String)
  /-- An end of the connection is no node's id. -/
  | danglingEdge (source target : String)
  /-- The connection runs from a network to an instance, which places nothing. -/
  | reversedContainment (source target : String)
  /-- The instance is in no network, and the placeholder stands in. -/
  | unplacedCompute (placeholder : String)
  /-- The instance is connected to several networks, of which the first counts. -/
  | ambiguousNetwork (count : Nat) (first : String)
  /-- An earlier node declares a resource of the same address. -/
  | duplicateAddress (address : Address) (owner : String)
deriving DecidableEq, Repr

namespace Finding

/-- The name of the rule that a finding breaks. Each sort of finding has a rule of
its own, so findings can be told apart by it. -/
def rule : Finding → String
  | duplicateId => "duplicate-id"
  | malformedNode => "malformed-node"
  | unknownKind _ => "unknown-kind"
  | danglingEdge _ _ => "dangling-edge"
  | reversedContainment _ _ => "reversed-containment"
  | unplacedCompute _ => "unplaced-compute"
  | ambiguousNetwork _ _ => "ambiguous-network"
  | duplicateAddress _ _ => "duplicate-address"

/-- How serious a finding is. What the user may have meant that way is an
information, and what is left out or doubled by accident is a warning. -/
def severity : Finding → Severity
  | duplicateId | malformedNode | danglingEdge _ _ | ambiguousNetwork _ _
  | duplicateAddress _ _ => .warning
  | unknownKind _ | reversedContainment _ _ | unplacedCompute _ => .info

/-- A finding about the node or connection of the given id, in words. The message
names what else is concerned, an end of a connection or the owner of an address. -/
def message (id : String) : Finding → String
  | duplicateId => "More than one node has id `" ++ id ++ "`."
  | malformedNode =>
    "Node `" ++ id ++ "` is missing its kind or attributes and is left out of the code."
  | unknownKind tag =>
    "Node `" ++ id ++ "` has unsupported kind `" ++ tag ++ "` and is left out of the code."
  | danglingEdge source target =>
    "Connection `" ++ id ++ "` (" ++ source ++ " → " ++ target
      ++ ") points at a node that does not exist."
  | reversedContainment source target =>
    "Connection `" ++ id ++ "` runs from network `" ++ source ++ "` to instance `" ++ target
      ++ "`; draw it from the instance to place it in the network."
  | unplacedCompute placeholder =>
    "Instance `" ++ id ++ "` is not connected to a network; it is placed in `" ++ placeholder
      ++ "`."
  | ambiguousNetwork count first =>
    "Instance `" ++ id ++ "` is connected to " ++ toString count ++ " networks; only `" ++ first
      ++ "` is used."
  | duplicateAddress address owner =>
    "`" ++ address.type ++ "." ++ address.name ++ "` is generated by both `" ++ owner ++ "` and `"
      ++ id ++ "`."

end Finding

/-- A finding and the node or connection that it is about, named by its id. Where
several nodes have the id, the diagnostic does not tell which of them is meant. -/
structure Diagnostic where
  id : String
  finding : Finding
deriving DecidableEq, Repr

namespace Diagnostic

/-- The diagnostic in words, which is its finding with its id put in. -/
def message (diagnostic : Diagnostic) : String := diagnostic.finding.message diagnostic.id

/-- The diagnostic as a value, its fields in the order in which they are explained.
Rule, severity and message all come from the finding. -/
def toValue (diagnostic : Diagnostic) : Value :=
  .object [
    ("id", .string diagnostic.id),
    ("message", .string diagnostic.message),
    ("severity", .string diagnostic.finding.severity.word),
    ("rule", .string diagnostic.finding.rule)]

/-- A list of diagnostics as text, in the order in which they were found. -/
def listText (diagnostics : List Diagnostic) : String :=
  (Value.array (diagnostics.map toValue)).text

end Diagnostic

end CloudDiagram
