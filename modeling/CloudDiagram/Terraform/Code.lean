import CloudDiagram.Diagram.Links
import CloudDiagram.Settings
import CloudDiagram.Terraform.Block

/-!
# The code of a diagram

Every readable node declares one resource, in the order of the nodes; a node that
cannot be read declares none. Only an instance depends on the rest of the diagram:
its address and its name contain the name of the network it is placed in, or a
placeholder.
-/

namespace CloudDiagram.Terraform

/-- The name of the network that an id is placed in, or the placeholder. It is the
only thing that code takes from connections. -/
def networkName (settings : GeneratorSettings) (links : Links) (nodes : List Node)
    (id : String) : String :=
  (links.containingNetwork? nodes id).elim settings.placeholder Network.name

/-- The name that an instance with the given id in the given network is declared
under. Network and id are put side by side, so two pairs of these may come to one
name. -/
def instanceName (network id : String) : String := network ++ "_ec2_" ++ id

/-- The address of a readable node; `network` names the network of an id. A node
that cannot be read takes no address. -/
def address? (network : String → String) (node : Node) : Option Address :=
  match node.payload with
  | .network attributes => some ⟨"aws_vpc", attributes.name⟩
  | .compute _ => some ⟨"aws_instance", instanceName (network node.id) node.id⟩
  | .storage attributes => some ⟨"aws_s3_bucket", attributes.bucketName⟩
  | .unrecognized _ _ | .malformed _ => none

/-- The environment of a resource: its own unless that is absent or empty. An empty
one is what a form leaves behind. -/
def environment (settings : GeneratorSettings) (tags : Tags) : String :=
  match tags.get? "Environment" with
  | some own => if own = "" then settings.environment else own
  | none => settings.environment

/-- The tags that are written besides the name and the environment. These two are
written in any case, from elsewhere, so they are taken out here. -/
def extraTags (settings : GeneratorSettings) (tags : Tags) : List (String × String) :=
  if settings.extraTags then
    tags.toList.filter fun (key, _) => key ≠ "Name" ∧ key ≠ "Environment"
  else []

/-- The tags of a resource: its name, its environment, and the others in key order.
A tag `Name` of its own does not replace the name. -/
def tagsItem (settings : GeneratorSettings) (name : String) (tags : Tags) : Item :=
  .mapping "tags"
    ([("Name", name), ("Environment", environment settings tags)] ++ extraTags settings tags)

/-- What is said about a network. Names are always resolved in it, and there is no
attribute to change that. -/
def networkItems (settings : GeneratorSettings) (attributes : Network) : List Item :=
  [.argument "cidr_block" (.text attributes.cidrBlock),
    .argument "enable_dns_support" (.flag true),
    .argument "enable_dns_hostnames" (.flag true),
    tagsItem settings attributes.name attributes.tags]

/-- The subnet of an instance. One whose name is an identifier is declared
elsewhere; any other is a literal id, and an empty one is not mentioned. -/
def subnetItem (subnet : String) : List Item :=
  if subnet = "" then []
  else if isIdentifier subnet then [.argument "subnet_id" (.subnetId subnet)]
  else [.argument "subnet_id" (.text subnet)]

/-- An argument that is left out when it is not set. An empty text is set, and is
written. -/
def optionalText (name : String) (value : Option String) : List Item :=
  (value.map fun text => .argument name (.text text)).toList

/-- A volume attached to an instance, as a list of arguments of its own. There is
one for each volume, in their order. -/
def deviceItem (device : BlockDevice) : Item :=
  .nested "ebs_block_device" [
    ("device_name", .text device.deviceName),
    ("volume_size", .size device.volumeSize),
    ("volume_type", .text device.volumeType)]

/-- What is said about an instance with the given id in the given network. Both are
in the name that it is tagged with, which is spelled otherwise than the one it is
declared under. -/
def computeItems (settings : GeneratorSettings) (network id : String) (attributes : Compute) :
    List Item :=
  [.argument "ami" (.text attributes.machineImage),
    .argument "instance_type" (.text attributes.instanceType)]
  ++ subnetItem attributes.subnet
  ++ [.argument "vpc_security_group_ids" (.texts attributes.securityGroups)]
  ++ optionalText "iam_instance_profile" attributes.instanceProfile
  ++ optionalText "key_name" attributes.keyName
  ++ attributes.blockDevices.map deviceItem
  ++ [tagsItem settings (network ++ "-ec2-" ++ id) attributes.tags]

/-- What is said about a bucket. Whether versions are kept is said in any case, and
a policy is put in as a document. -/
def storageItems (settings : GeneratorSettings) (attributes : Storage) : List Item :=
  [.argument "bucket" (.text attributes.bucketName)]
  ++ (attributes.forceDestroy.map fun force => .argument "force_destroy" (.flag force)).toList
  ++ optionalText "acl" attributes.accessControl
  ++ [.nested "versioning" [("enabled", .flag attributes.versioned)]]
  ++ (attributes.policy.map fun policy => .document "policy" policy).toList
  ++ [tagsItem settings attributes.bucketName attributes.tags]

/-- The block of a readable node. A node that cannot be read has none, and is left
out without a word. -/
def block? (settings : GeneratorSettings) (network : String → String) (node : Node) :
    Option Block :=
  match node.payload with
  | .network attributes =>
    some ⟨⟨"aws_vpc", attributes.name⟩, networkItems settings attributes⟩
  | .compute attributes =>
    some ⟨⟨"aws_instance", instanceName (network node.id) node.id⟩,
      computeItems settings (network node.id) node.id attributes⟩
  | .storage attributes =>
    some ⟨⟨"aws_s3_bucket", attributes.bucketName⟩, storageItems settings attributes⟩
  | .unrecognized _ _ | .malformed _ => none

/-- The blocks of a diagram, in the order of its nodes. Networks are looked up in
the whole diagram, so an instance may come before its network. -/
def blocks (settings : GeneratorSettings) (nodes : List Node) (edges : List Connection) :
    List Block :=
  let links := Links.ofLists nodes edges
  nodes.filterMap (block? settings (networkName settings links nodes))

/-- The code of a diagram. It depends on the nodes and the pairs that are connected,
and on nothing that a workspace remembers. -/
def generate (settings : GeneratorSettings) (nodes : List Node) (edges : List Connection) :
    String :=
  printBlocks (blocks settings nodes edges)

end CloudDiagram.Terraform
