/-!
# Resource kinds

Three kinds of resource can be written as code. Each has a tag, by which it is
written, and a second, general name, by which it can be read too.
-/

namespace CloudDiagram

/-- A kind of resource. A node of any other kind is kept in the diagram, and is left
out of the code. -/
inductive Kind where
  /-- A virtual network. -/
  | network
  /-- An instance. -/
  | compute
  /-- A bucket. -/
  | storage
deriving DecidableEq, Repr

namespace Kind

/-- All kinds, in their order. What goes over all kinds, as looking one up by its
tag, goes over this list. -/
def all : List Kind := [network, compute, storage]

/-- The tag by which a kind is written. Ids that are made up for preset resources
begin with it. -/
def tag : Kind → String
  | network => "vpc"
  | compute => "ec2"
  | storage => "s3"

/-- The general name of a kind, which is read like the tag. It is never written, so
a payload changes its tag when it is read and written again. -/
def generalName : Kind → String
  | network => "network"
  | compute => "compute"
  | storage => "storage"

/-- The kind that a tag or general name denotes. Case and blanks count, so nothing
close to a tag denotes a kind. -/
def ofTag? (tag : String) : Option Kind :=
  all.find? fun kind => tag = kind.tag ∨ tag = kind.generalName

/-- The position among all kinds, counted from zero. -/
def index (kind : Kind) : Nat := all.idxOf kind

/-- A kind is read back by its tag, which is what makes readable payloads survive
being written. -/
theorem ofTag?_tag (kind : Kind) : ofTag? kind.tag = some kind := by
  cases kind <;> decide

end Kind

end CloudDiagram
