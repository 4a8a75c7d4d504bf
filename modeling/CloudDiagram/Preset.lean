import CloudDiagram.Diagram.Basic
import CloudDiagram.Registry
import CloudDiagram.Settings

/-!
# Presets

Each kind of resource can be placed ready for use: the node has a new id, whose
stem is the tag of its kind, and attributes that make sense at once. A network and
an instance are named after the id, a bucket after the number in it.
-/

namespace CloudDiagram.Preset

/-- The tags of a preset resource: its name, and the default environment, whatever
the settings of the generator are. -/
def tags (name : String) : Tags :=
  Table.ofList [("Name", name), ("Environment", defaultEnvironment)]

/-- The name of a bucket: its id's number, or the whole id if it has none. An id
that was made up always has a number. -/
def bucketName (id : String) : String := "my-bucket-" ++ (idNumber? id).getD id

/-- The attributes of a preset resource. They are the same for all resources of a
kind, except for the names, so that two of a kind differ in what they are declared
under. -/
def payload : Kind → String → Payload
  | .network, id => .network { name := id, cidrBlock := "10.0.0.0/16", tags := tags id }
  | .compute, id => .compute {
      instanceType := "t2.micro"
      machineImage := "ami-0c55b159cbfafe1f0"
      subnet := "test-subnet"
      securityGroups := ["sg-12345678"]
      tags := tags id }
  | .storage, id => .storage {
      bucketName := bucketName id
      versioned := true
      tags := tags (bucketName id) }

/-- A preset resource is of its kind, so it is never left out of the code. -/
theorem kind?_payload (kind : Kind) (id : String) : (payload kind id).kind? = some kind := by
  cases kind <;> rfl

/-- A node of a kind with its preset attributes and a new id, and the registry that
has used the id up. The attributes are made from the id, so the id is made up first.
-/
def place (registry : Registry) (kind : Kind) (position : Position) : Node × Registry :=
  let (id, registry) := registry.fresh kind.tag
  ({ id, payload := payload kind id, position }, registry)

end CloudDiagram.Preset
