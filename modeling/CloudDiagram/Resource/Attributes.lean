import CloudDiagram.Table

/-!
# Attributes of resources

What a user sets on a resource of each kind. An absent option is `none`, which
is not the same as an empty text.
-/

namespace CloudDiagram

/-- Free labels of a resource, in key order. Two of the keys, the name and the
environment, have a meaning of their own in the code. -/
abbrev Tags := Table String

/-- A virtual network. Instances are placed in it by connections, so it does not
list them. -/
structure Network where
  name : String
  cidrBlock : String
  tags : Tags := Table.empty
deriving DecidableEq

/-- A volume attached to an instance. All three fields are required when it is read.
-/
structure BlockDevice where
  deviceName : String
  volumeSize : UInt32
  volumeType : String
deriving DecidableEq

/-- An instance. The subnet may be the name of one, a literal id, or empty. The
network it is placed in is not among its attributes, but follows from the
connections. -/
structure Compute where
  instanceType : String
  machineImage : String
  subnet : String := ""
  securityGroups : List String := []
  instanceProfile : Option String := none
  keyName : Option String := none
  blockDevices : List BlockDevice := []
  tags : Tags := Table.empty
deriving DecidableEq

/-- A bucket. The policy is a document that is kept as it was written, and is not
read as JSON. -/
structure Storage where
  bucketName : String
  versioned : Bool := false
  forceDestroy : Option Bool := none
  accessControl : Option String := none
  policy : Option String := none
  tags : Tags := Table.empty
deriving DecidableEq

end CloudDiagram
