import CloudDiagram.Proofs.Resource.Codec
import Mathlib.Data.List.Forall2

/-!
# Spellings of a payload that are read alike

A payload of a known kind can be spelled in many ways. The kind has a tag and a general name. An
attribute that need not be there may be null instead of absent. Members that the payload, its
attributes or one of its volumes do not know may be there or not, and say nothing.

Attributes are read field by field, and a field is read by its name. So it is enough that two
spellings agree on the fields of the kind: on those that have to be there altogether, and on the
others up to null and absent. Then both are read as the same payload, or none of them is readable.
-/

namespace CloudDiagram

open Json

namespace Attributes

variable {α : Type}

/-- A field is absent or null, which readers do not tell apart where a field has a
default. -/
def Blank (field : Option Value) : Prop := field = none ∨ field = some .null

/-- Two fields are the same, but that one may be null where the other is absent. -/
def SameOption (field other : Option Value) : Prop := field = other ∨ Blank field ∧ Blank other

/-- A blank field counts as the default, whichever way it is blank. -/
theorem defaulted_of_blank {default : α} {read : Value → Option α} {field : Option Value}
    (blank : Blank field) : defaulted default read field = some default := by
  rcases blank with rfl | rfl <;> rfl

/-- A blank field is an option that is not set, whichever way it is blank. -/
theorem optional_of_blank {read : Value → Option α} {field : Option Value} (blank : Blank field) :
    optional read field = some none := by
  rcases blank with rfl | rfl <;> rfl

/-- Fields with a default are read alike, null or absent. If neither is blank they
are the same. -/
theorem SameOption.defaulted_eq {field other : Option Value} (same : SameOption field other)
    (default : α) (read : Value → Option α) :
    defaulted default read field = defaulted default read other := by
  rcases same with rfl | ⟨blank, blank'⟩
  · rfl
  · rw [defaulted_of_blank blank, defaulted_of_blank blank']

/-- Options are read alike, null or absent. If neither is blank they are the same.
-/
theorem SameOption.optional_eq {field other : Option Value} (same : SameOption field other)
    (read : Value → Option α) : optional read field = optional read other := by
  rcases same with rfl | ⟨blank, blank'⟩
  · rfl
  · rw [optional_of_blank blank, optional_of_blank blank']

/-- Arrays of items that are read alike one by one are read alike. -/
theorem list?_congr {item : Value → Option α} {items others : List Value}
    (alike : List.Forall₂ (fun value other => item value = item other) items others) :
    list? item (.array items) = list? item (.array others) := by
  change items.mapM item = others.mapM item
  induction alike with
  | nil => rfl
  | cons head _ inductionHypothesis =>
    rw [List.mapM_cons, List.mapM_cons, head, inductionHypothesis]

end Attributes

open Attributes

/-- Two spellings of a volume: one value, or two objects with the same fields of a volume and any
other members. -/
def BlockDevice.Alike (value other : Value) : Prop :=
  value = other ∨ ∃ members others, value = .object members ∧ other = .object others ∧
    ∀ name ∈ fieldNames, Entries.get? members name = Entries.get? others name

/-- Two spellings of the volumes of an instance: null may stand where the other has nothing, and
each volume of a list may be spelled in two ways. -/
def Compute.SameDevices (field other : Option Value) : Prop :=
  SameOption field other ∨ ∃ devices others, field = some (.array devices) ∧
    other = some (.array others) ∧ List.Forall₂ BlockDevice.Alike devices others

namespace Kind

/-- The attributes that have to be there. Null is not enough for one of these. -/
def requiredFields : Kind → List String
  | network => ["name", "cidr_block"]
  | compute => ["instance_type", "ami"]
  | storage => ["bucket_name"]

/-- The attributes that need not be there, but for the volumes of an instance. -/
def optionalFields : Kind → List String
  | network => ["tags"]
  | compute => ["subnet_id", "security_group_ids", "iam_instance_profile", "key_name", "tags"]
  | storage => ["versioning_enabled", "force_destroy", "acl", "policy", "tags"]

/-- Two spellings of the attributes of a kind. They agree on the attributes that have to be there;
each of the others may be null in one and absent in the other. Members of other names, and such
members of the volumes of an instance, may be any or none. -/
structure SameAttributes (kind : Kind) (members others : List (String × Value)) : Prop where
  required : ∀ name ∈ kind.requiredFields, Entries.get? members name = Entries.get? others name
  optional : ∀ name ∈ kind.optionalFields,
    SameOption (Entries.get? members name) (Entries.get? others name)
  devices : kind = compute → Compute.SameDevices (Entries.get? members "ebs_block_devices")
    (Entries.get? others "ebs_block_devices")

end Kind

/-- The fields of a kind are those that have to be there and those that need not. -/
example : Network.fieldNames = Kind.network.requiredFields ++ Kind.network.optionalFields ∧
    Compute.fieldNames.Perm
      ("ebs_block_devices" :: Kind.compute.requiredFields ++ Kind.compute.optionalFields) ∧
    Storage.fieldNames = Kind.storage.requiredFields ++ Kind.storage.optionalFields := by decide

/-- Two spellings of a volume are read alike: only its three fields are looked up.
-/
theorem BlockDevice.Alike.ofValue?_eq {value other : Value} (alike : Alike value other) :
    ofValue? value = ofValue? other := by
  rcases alike with rfl | ⟨members, others, rfl, rfl, same⟩
  · rfl
  · simp only [fieldNames, List.forall_mem_cons] at same
    obtain ⟨name, size, type, -⟩ := same
    simp only [ofValue?, fields?, Option.bind_eq_bind, Option.bind_some, name, size, type]

/-- Two spellings of the volumes of an instance are read alike, each volume like the
one at its place in the other list. -/
theorem Compute.SameDevices.defaulted_eq {field other : Option Value}
    (same : SameDevices field other) :
    defaulted [] (list? BlockDevice.ofValue?) field =
      defaulted [] (list? BlockDevice.ofValue?) other := by
  rcases same with same | ⟨devices, others, rfl, rfl, alike⟩
  · exact same.defaulted_eq _ _
  · exact list?_congr (alike.imp fun _ _ => BlockDevice.Alike.ofValue?_eq)

section SameAttributes

variable {members others : List (String × Value)}

/-- Two spellings of the attributes of a network are read alike, field by field. -/
theorem Network.ofValue?_congr (same : Kind.network.SameAttributes members others) :
    ofValue? (.object members) = ofValue? (.object others) := by
  obtain ⟨required, optional, -⟩ := same
  simp only [Kind.requiredFields, Kind.optionalFields, List.forall_mem_cons] at required optional
  obtain ⟨name, cidrBlock, -⟩ := required
  simp only [ofValue?, fields?, Option.bind_eq_bind, Option.bind_some, name, cidrBlock,
    optional.1.defaulted_eq]

/-- Two spellings of the attributes of an instance are read alike, field by field,
and its volumes one by one. -/
theorem Compute.ofValue?_congr (same : Kind.compute.SameAttributes members others) :
    ofValue? (.object members) = ofValue? (.object others) := by
  obtain ⟨required, optional, devices⟩ := same
  simp only [Kind.requiredFields, Kind.optionalFields, List.forall_mem_cons] at required optional
  obtain ⟨instanceType, machineImage, -⟩ := required
  obtain ⟨subnet, groups, profile, key, tags, -⟩ := optional
  simp only [ofValue?, fields?, Option.bind_eq_bind, Option.bind_some, instanceType, machineImage,
    subnet.defaulted_eq, groups.defaulted_eq, profile.optional_eq, key.optional_eq,
    (devices rfl).defaulted_eq, tags.defaulted_eq]

/-- Two spellings of the attributes of a bucket are read alike, field by field. -/
theorem Storage.ofValue?_congr (same : Kind.storage.SameAttributes members others) :
    ofValue? (.object members) = ofValue? (.object others) := by
  obtain ⟨required, optional, -⟩ := same
  simp only [Kind.requiredFields, Kind.optionalFields, List.forall_mem_cons] at required optional
  obtain ⟨versioned, forceDestroy, accessControl, policy, tags, -⟩ := optional
  simp only [ofValue?, fields?, Option.bind_eq_bind, Option.bind_some, required.1,
    versioned.defaulted_eq, forceDestroy.optional_eq, accessControl.optional_eq,
    policy.optional_eq, tags.defaulted_eq]

end SameAttributes

namespace Payload

/-- Two spellings of the attributes of a kind fit it alike, and make the same
payload if they do. -/
theorem ofAttributes?_congr {kind : Kind} {members others : List (String × Value)}
    (same : kind.SameAttributes members others) :
    ofAttributes? kind (.object members) = ofAttributes? kind (.object others) := by
  cases kind with
  | network => exact congrArg (Option.map network) (Network.ofValue?_congr same)
  | compute => exact congrArg (Option.map compute) (Compute.ofValue?_congr same)
  | storage => exact congrArg (Option.map storage) (Storage.ofValue?_congr same)

/-- A value is an object that names the kind, by its tag or its general name, and has an object as
its attributes. It may have any other members. -/
structure Spells (value : Value) (kind : Kind) (attributes : List (String × Value)) : Prop where
  type : ∃ tag, value.member? "type" = some (.string tag) ∧ Kind.ofTag? tag = some kind
  data : value.member? "data" = some (.object attributes)

/-- What is spelled for a kind is read if its attributes fit the kind. Otherwise the
whole value is kept as it is. -/
theorem Spells.ofValue_eq {value : Value} {kind : Kind} {attributes : List (String × Value)}
    (spells : Spells value kind attributes) :
    ofValue value = (ofAttributes? kind (.object attributes)).getD (malformed value) := by
  obtain ⟨⟨tag, type, known⟩, data⟩ := spells
  have parts : parts? value = some (tag, .object attributes) := by
    simp [parts?, type, data, Value.text?]
  simp [ofValue, parts, known]

/-- Two spellings of a payload of a known kind are read as the same payload, which is of that kind,
or none of them is read and each is kept as it is. They may name the kind by its tag or its general
name, have other members beside type and attributes, other members in the attributes or in a
volume, and any of the attributes that need not be there null or absent. -/
theorem spellings_read_alike {value other : Value} {kind : Kind}
    {attributes attributes' : List (String × Value)} (spells : Spells value kind attributes)
    (spells' : Spells other kind attributes') (same : kind.SameAttributes attributes attributes') :
    (∃ payload, payload.kind? = some kind ∧ ofValue value = payload ∧ ofValue other = payload) ∨
      (ofValue value = malformed value ∧ ofValue other = malformed other) := by
  rw [spells.ofValue_eq, spells'.ofValue_eq, ofAttributes?_congr same]
  cases fit : ofAttributes? kind (.object attributes') with
  | none => exact Or.inr ⟨rfl, rfl⟩
  | some payload => exact Or.inl ⟨payload, kind?_of_ofAttributes? fit, rfl, rfl⟩

/-- An instance of two spellings, one with its kind's tag and null attributes and the other with
the general name, absent attributes and a note in each of its objects, is one instance. -/
theorem one_instance_in_two_spellings :
    let volume : List (String × Value) :=
      [("device_name", .string "/dev/sdf"), ("volume_size", .ofUInt32 8),
        ("volume_type", .string "gp3")]
    let note : String × Value := ("note", .array [.null])
    let attributes : List (String × Value) :=
      [("ami", .string "ami-1"), ("ebs_block_devices", .array [.object volume]),
        ("instance_type", .string "t3.micro"), ("key_name", .null), ("tags", .null)]
    let attributes' : List (String × Value) :=
      [("ami", .string "ami-1"), ("ebs_block_devices", .array [.object (note :: volume)]),
        ("iam_instance_profile", .null), ("instance_type", .string "t3.micro"), note]
    let value : Value := .object [("data", .object attributes), ("type", .string "ec2")]
    let other : Value :=
      .object [("data", .object attributes'), note, ("type", .string "compute")]
    ofValue value ≠ malformed value ∧ ofValue other = ofValue value := by
  intro volume note attributes attributes' value other
  have spells : Spells value .compute attributes := ⟨⟨"ec2", rfl, by decide⟩, rfl⟩
  have spells' : Spells other .compute attributes' := ⟨⟨"compute", rfl, by decide⟩, rfl⟩
  have alike : BlockDevice.Alike (.object volume) (.object (note :: volume)) :=
    Or.inr ⟨volume, note :: volume, rfl, rfl, by decide⟩
  have same : Kind.compute.SameAttributes attributes attributes' :=
    { required := by decide
      optional := by
        simp only [Kind.optionalFields, List.forall_mem_cons, List.not_mem_nil, false_implies,
          implies_true, and_true, SameOption, Blank]
        decide
      devices := fun _ => Or.inr ⟨_, _, rfl, rfl, .cons alike .nil⟩ }
  have readable : ofValue value ≠ malformed value := by decide
  rcases spellings_read_alike spells spells' same with ⟨payload, -, first, second⟩ | ⟨first, -⟩
  · exact ⟨readable, second.trans first.symm⟩
  · exact absurd first readable

end Payload

end CloudDiagram
