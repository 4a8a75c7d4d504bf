import CloudDiagram.Json.Value
import CloudDiagram.Resource.Attributes
import CloudDiagram.Resource.Kind

/-!
# Payloads

The payload of a node names its kind and holds its attributes. While a user is
still editing, a payload may be of an unknown kind or not make sense at all; it is
kept then, without being understood. A payload of a known kind whose attributes
do not fit is kept as the whole value that it came as.
-/

namespace CloudDiagram

open Json

/-- Kind and attributes of a node. Every JSON value is some payload, so a node is
never lost because its payload is not understood. -/
inductive Payload where
  | network (attributes : Network)
  | compute (attributes : Compute)
  | storage (attributes : Storage)
  /-- A kind without code, with its tag and attributes as they came. -/
  | unrecognized (tag : String) (attributes : Value)
  /-- Not a kind with attributes that fit it. -/
  | malformed (raw : Value)
deriving DecidableEq

namespace Payload

/-- The kind of a readable payload. The other two sorts have none, also where their
tag would be that of a kind. -/
def kind? : Payload → Option Kind
  | network _ => some .network
  | compute _ => some .compute
  | storage _ => some .storage
  | unrecognized _ _ | malformed _ => none

/-- The tags of a readable payload. What an unreadable one has under the key of the
tags is not looked at. -/
def tags? : Payload → Option Tags
  | network attributes => some attributes.tags
  | compute attributes => some attributes.tags
  | storage attributes => some attributes.tags
  | unrecognized _ _ | malformed _ => none

/-- The network that a payload describes, if it does. It is asked for wherever an
instance is to be placed. -/
def network? : Payload → Option Network
  | network attributes => some attributes
  | compute _ | storage _ | unrecognized _ _ | malformed _ => none

end Payload

namespace Attributes

variable {α : Type}

/-- The fields of a record that is given as an object, or as an array of its fields
in the order of their names. An array may end early but has no more items than
names. -/
def fields? (names : List String) : Value → Option (String → Option Value)
  | .object members => some fun name => Entries.get? members name
  | .array items =>
    if items.length ≤ names.length then some fun name => (names.zip items).lookup name
    else none
  | .null | .bool _ | .number _ | .string _ => none

/-- A field that has to be there. Null counts as any other value, and fits no field
that is required. -/
def required (read : Value → Option α) (field : Option Value) : Option α := field.bind read

/-- A field that counts as a default when it is absent or null. Any other value has
to fit, or the record is refused. -/
def defaulted (default : α) (read : Value → Option α) : Option Value → Option α
  | none | some .null => some default
  | some value => read value

/-- A field that may be absent or null, which come to the same. It is written only
where it is there, so null is not written again. -/
def optional (read : Value → Option α) : Option Value → Option (Option α)
  | none | some .null => some none
  | some value => (read value).map some

/-- A truth value. Numbers and texts do not stand for one. -/
def flag? : Value → Option Bool
  | .bool flag => some flag
  | _ => none

/-- A whole number of 32 bits, written without point or exponent. One that is
negative or too large is refused and not cut off. -/
def size? : Value → Option UInt32
  | .number (.integer number) =>
    if 0 ≤ number.value ∧ number.value < 4294967296 then some number.value.toNat.toUInt32
    else none
  | _ => none

/-- An array, all of whose items can be read. One bad item is enough for the list to
be refused. -/
def list? (item : Value → Option α) : Value → Option (List α)
  | .array items => items.mapM item
  | _ => none

/-- A member that is a text, with its key. A tag whose value is a number or null is
refused. -/
def tag? (member : String × Value) : Option (String × String) :=
  member.2.text?.map (member.1, ·)

/-- An object, all of whose members are texts. An array does not stand for tags,
although it may stand for a record. -/
def tags? : Value → Option Tags
  | .object members => (members.mapM tag?).map Table.ofList
  | _ => none

/-- Members of an object, the absent ones left out, in key order. The order in which
a record names its fields is lost by this. -/
def object (members : List (String × Option Value)) : Value :=
  .object (Entries.ofList (members.filterMap fun (key, value) => value.map (key, ·)))

/-- The object of a resource's tags. They are in key order already, so they are
written as they are held. -/
def ofTags (tags : Tags) : Value :=
  .object (tags.toList.map fun (key, value) => (key, .string value))

end Attributes

open Attributes

namespace Network

/-- The fields, in their order, which is the order of the items where a network is
an array. -/
def fieldNames : List String := ["name", "cidr_block", "tags"]

/-- The network that a value describes. Members that it does not know are passed
over, so they are not there when it is written. -/
def ofValue? (value : Value) : Option Network := do
  let field ← fields? fieldNames value
  let name ← required Value.text? (field "name")
  let cidrBlock ← required Value.text? (field "cidr_block")
  let tags ← defaulted Table.empty Attributes.tags? (field "tags")
  return { name, cidrBlock, tags }

/-- The attributes as a value. Tags are written also where there are none. -/
def toValue (network : Network) : Value :=
  object [
    ("name", some (.string network.name)),
    ("cidr_block", some (.string network.cidrBlock)),
    ("tags", some (ofTags network.tags))]

end Network

namespace BlockDevice

/-- The fields, in their order, which is the order of the items where a volume is an
array. -/
def fieldNames : List String := ["device_name", "volume_size", "volume_type"]

/-- The volume that a value describes. There are no defaults, so an array has to be
complete. -/
def ofValue? (value : Value) : Option BlockDevice := do
  let field ← fields? fieldNames value
  let deviceName ← required Value.text? (field "device_name")
  let volumeSize ← required size? (field "volume_size")
  let volumeType ← required Value.text? (field "volume_type")
  return { deviceName, volumeSize, volumeType }

/-- The attributes as a value, with all three fields. -/
def toValue (device : BlockDevice) : Value :=
  object [
    ("device_name", some (.string device.deviceName)),
    ("volume_size", some (.ofUInt32 device.volumeSize)),
    ("volume_type", some (.string device.volumeType))]

end BlockDevice

namespace Compute

/-- The fields, in their order, which is the order of the items where an instance is
an array. -/
def fieldNames : List String :=
  ["instance_type", "ami", "subnet_id", "security_group_ids", "iam_instance_profile", "key_name",
    "ebs_block_devices", "tags"]

/-- The instance that a value describes. Only its type and its image are required,
and null is as good as nothing for all other fields. -/
def ofValue? (value : Value) : Option Compute := do
  let field ← fields? fieldNames value
  let instanceType ← required Value.text? (field "instance_type")
  let machineImage ← required Value.text? (field "ami")
  let subnet ← defaulted "" Value.text? (field "subnet_id")
  let securityGroups ← defaulted [] (list? Value.text?) (field "security_group_ids")
  let instanceProfile ← optional Value.text? (field "iam_instance_profile")
  let keyName ← optional Value.text? (field "key_name")
  let blockDevices ← defaulted [] (list? BlockDevice.ofValue?) (field "ebs_block_devices")
  let tags ← defaulted Table.empty Attributes.tags? (field "tags")
  return {
    instanceType, machineImage, subnet, securityGroups, instanceProfile, keyName, blockDevices,
    tags }

/-- The attributes as a value. Options that are absent and an empty list of volumes
are left out; empty texts, groups and tags are written. -/
def toValue (compute : Compute) : Value :=
  object [
    ("instance_type", some (.string compute.instanceType)),
    ("ami", some (.string compute.machineImage)),
    ("subnet_id", some (.string compute.subnet)),
    ("security_group_ids", some (.ofTexts compute.securityGroups)),
    ("iam_instance_profile", compute.instanceProfile.map .string),
    ("key_name", compute.keyName.map .string),
    ("ebs_block_devices",
      if compute.blockDevices.isEmpty then none
      else some (.array (compute.blockDevices.map BlockDevice.toValue))),
    ("tags", some (ofTags compute.tags))]

end Compute

namespace Storage

/-- The fields, in their order, which is the order of the items where a bucket is an
array. -/
def fieldNames : List String :=
  ["bucket_name", "versioning_enabled", "force_destroy", "acl", "policy", "tags"]

/-- The bucket that a value describes. Only its name is required. -/
def ofValue? (value : Value) : Option Storage := do
  let field ← fields? fieldNames value
  let bucketName ← required Value.text? (field "bucket_name")
  let versioned ← defaulted false flag? (field "versioning_enabled")
  let forceDestroy ← optional flag? (field "force_destroy")
  let accessControl ← optional Value.text? (field "acl")
  let policy ← optional Value.text? (field "policy")
  let tags ← defaulted Table.empty Attributes.tags? (field "tags")
  return { bucketName, versioned, forceDestroy, accessControl, policy, tags }

/-- The attributes as a value. Options that are absent are left out, and a bucket
that keeps no versions says so. -/
def toValue (storage : Storage) : Value :=
  object [
    ("bucket_name", some (.string storage.bucketName)),
    ("versioning_enabled", some (.bool storage.versioned)),
    ("force_destroy", storage.forceDestroy.map .bool),
    ("acl", storage.accessControl.map .string),
    ("policy", storage.policy.map .string),
    ("tags", some (ofTags storage.tags))]

end Storage

namespace Payload

/-- The tag and the attributes of a payload value; null attributes are none. Other
members of the value are not looked at. -/
def parts? (value : Value) : Option (String × Value) := do
  let tag ← (← value.member? "type").text?
  let attributes ← value.member? "data"
  if attributes = .null then none else return (tag, attributes)

/-- The payload of a kind with the given attributes, if they fit the kind. The three
kinds differ in how their attributes are read. -/
def ofAttributes? : Kind → Value → Option Payload
  | .network, attributes => (Network.ofValue? attributes).map network
  | .compute, attributes => (Compute.ofValue? attributes).map compute
  | .storage, attributes => (Storage.ofValue? attributes).map storage

/-- The payload that a value describes. Every value describes one: what has no tag
and attributes, or attributes that do not fit its kind, is kept as a malformed one.
-/
def ofValue (value : Value) : Payload :=
  match parts? value with
  | none => malformed value
  | some (tag, attributes) =>
    match Kind.ofTag? tag with
    | none => unrecognized tag attributes
    | some kind => (ofAttributes? kind attributes).getD (malformed value)

/-- A kind's tag beside attributes. The two members are in key order, so the
attributes come first. -/
def tagged (tag : String) (attributes : Value) : Value :=
  Attributes.object [("type", some (.string tag)), ("data", some attributes)]

/-- A payload as a value. A readable one is written from its attributes, and a
malformed one is the value that it came as. -/
def toValue : Payload → Value
  | network attributes => tagged Kind.network.tag attributes.toValue
  | compute attributes => tagged Kind.compute.tag attributes.toValue
  | storage attributes => tagged Kind.storage.tag attributes.toValue
  | unrecognized tag attributes => tagged tag attributes
  | malformed raw => raw

end Payload

end CloudDiagram
