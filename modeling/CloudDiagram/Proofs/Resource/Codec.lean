import CloudDiagram.Proofs.Resource.Unreadable
import Mathlib.Data.List.Induction

/-!
# Payloads survive being written as values

Attributes are written as an object and read from one. Each field has its own way of being
absent: it is always written, or left out when it is not set, or left out when it is empty. The
way in which it is read answers to that, so a field that was left out is read as what it was.

Reading a value settles which payload it is. Writing that payload and reading it again changes
nothing more, whatever the value was: a kind may have been given by its general name, attributes
as an array, fields as null, and other members may have been there. What could not be read is
still not read, and is kept as it was.
-/

namespace CloudDiagram

open Json

/-- What is inserted last stays, and it replaces what stood under its key before. -/
theorem Entries.get?_ofList_append_singleton {α : Type} (entries : List (String × α))
    (entry : String × α) (sought : String) :
    get? (ofList (entries ++ [entry])) sought =
      if sought = entry.1 then some entry.2 else get? (ofList entries) sought := by
  rw [ofList, List.foldl_append]
  exact get?_insert _ entry.1 entry.2 sought

namespace Attributes

variable {α : Type}

/-- A field of an object that was written has the value that was given for it, if
any was. No name is given twice, so no field replaces another. -/
theorem get?_object {members : List (String × Option Value)}
    (distinct : (members.map Prod.fst).Nodup) (name : String) :
    Entries.get? (Entries.ofList (members.filterMap fun (key, value) => value.map (key, ·))) name =
      (members.find? fun member => member.1 = name).bind Prod.snd := by
  induction members using List.reverseRecOn with
  | nil => rfl
  | append_singleton members last inductionHypothesis =>
    obtain ⟨key, value⟩ := last
    rw [List.map_append, List.nodup_append] at distinct
    obtain ⟨distinctBefore, -, apart⟩ := distinct
    have before := inductionHypothesis distinctBefore
    rw [List.filterMap_append, List.find?_append]
    by_cases same : name = key
    · subst same
      have absent : members.find? (fun member => member.1 = name) = none := by
        rw [List.find?_eq_none]
        intro member present equal
        exact apart member.1 (List.mem_map_of_mem present) name List.mem_cons_self
          (of_decide_eq_true equal)
      cases value with
      | none => simp [before, absent]
      | some value => simp [Entries.get?_ofList_append_singleton, absent]
    · have other : key ≠ name := fun equal => same equal.symm
      cases value with
      | none => simp [before, other]
      | some value => simp [Entries.get?_ofList_append_singleton, same, before, other]

/-- The fields of an object that was written are those that were given. It is the
form in which the readers of attributes ask for them. -/
theorem exists_fields?_object (names : List String) {members : List (String × Option Value)}
    (distinct : (members.map Prod.fst).Nodup) :
    ∃ field, fields? names (object members) = some field ∧
      ∀ name, field name = (members.find? fun member => member.1 = name).bind Prod.snd :=
  ⟨_, rfl, get?_object distinct⟩

/-- A field that has to be there is read. -/
theorem required_some (read : Value → Option α) (value : Value) :
    required read (some value) = read value := by
  rw [required, Option.bind_some]

/-- A field that is there is read, unless it is null, which counts as absent. -/
theorem defaulted_some {default : α} {read : Value → Option α} {value : Value}
    (given : value ≠ .null) : defaulted default read (some value) = read value := by
  cases value with
  | null => exact absurd rfl given
  | bool _ | number _ | string _ | array _ | object _ => rfl

/-- An option that was written, or left out, is read as it was. No value that is set
is written as null. -/
theorem optional_map (read : Value → Option α) (write : α → Value)
    (inverse : ∀ a, read (write a) = some a) (given : ∀ a, write a ≠ .null) (held : Option α) :
    optional read (held.map write) = some held := by
  cases held with
  | none => rfl
  | some a =>
    have value := given a
    have readBack := inverse a
    cases written : write a with
    | null => exact absurd written value
    | bool _ | number _ | string _ | array _ | object _ => simp_all [optional]

/-- A list that was written is read item by item, in its order. -/
theorem list?_array (read : Value → Option α) (write : α → Value)
    (inverse : ∀ a, read (write a) = some a) (items : List α) :
    list? read (.array (items.map write)) = some items := by
  induction items with
  | nil => rfl
  | cons item items inductionHypothesis =>
    have others : (items.map write).mapM read = some items := inductionHypothesis
    simp [list?, inverse, others]

/-- A size that was written is read, since every word of 32 bits is in the range
that is read. -/
theorem size?_ofUInt32 (word : UInt32) : size? (.ofUInt32 word) = some word := by
  have small : word.toNat < 4294967296 := word.toNat_lt
  have range : 0 ≤ (WideInt.ofUInt32 word).value ∧ (WideInt.ofUInt32 word).value < 4294967296 := by
    simp only [WideInt.ofUInt32]
    omega
  simp only [size?, Value.ofUInt32, range, and_self, if_true]
  simp [WideInt.ofUInt32]

/-- Tags that were written are read. They are written in key order and inserted
again in this order. -/
theorem tags?_ofTags (tags : Tags) : Attributes.tags? (ofTags tags) = some tags := by
  have entries (held : List (String × String)) :
      (held.map fun entry => (entry.1, Value.string entry.2)).mapM tag? = some held := by
    induction held with
    | nil => rfl
    | cons entry held inductionHypothesis => simp [tag?, Value.text?, inductionHypothesis]
  exact (congrArg (Option.map Table.ofList) (entries tags.toList)).trans
    (congrArg some (Table.ofList_toList tags))

end Attributes

open Attributes

/-- Tags are always written, and not as null, so they are read and not replaced by
the default. -/
theorem defaulted_ofTags (tags : Tags) :
    defaulted Table.empty Attributes.tags? (some (ofTags tags)) = some tags := tags?_ofTags tags

/-- Attributes of a network are read as they were written. -/
theorem Network.ofValue?_toValue (network : Network) :
    Network.ofValue? network.toValue = some network := by
  obtain ⟨field, fields, given⟩ : ∃ field, fields? fieldNames network.toValue = some field ∧ _ :=
    exists_fields?_object fieldNames (by simp)
  simp [Network.ofValue?, fields, given, required_some, Value.text?, defaulted_ofTags]

/-- A volume is read as it was written. Its size is the only number in any
attributes. -/
theorem BlockDevice.ofValue?_toValue (device : BlockDevice) :
    BlockDevice.ofValue? device.toValue = some device := by
  obtain ⟨field, fields, given⟩ : ∃ field, fields? fieldNames device.toValue = some field ∧ _ :=
    exists_fields?_object fieldNames (by simp)
  have name : field "device_name" = some (.string device.deviceName) := by simp [given]
  have size : field "volume_size" = some (.ofUInt32 device.volumeSize) := by simp [given]
  have type : field "volume_type" = some (.string device.volumeType) := by simp [given]
  simp [BlockDevice.ofValue?, fields, name, size, type, required_some, Value.text?,
    size?_ofUInt32]

/-- A list of texts is always written, and not as null, also if it is empty. -/
theorem defaulted_ofTexts (texts : List String) :
    defaulted [] (list? Value.text?) (some (.ofTexts texts)) = some texts :=
  list?_array Value.text? .string (fun _ => rfl) texts

/-- An option that is a text is written, or left out; both are read as it was. -/
theorem optional_text (held : Option String) :
    optional Value.text? (held.map .string) = some held :=
  optional_map Value.text? .string (fun _ => rfl) nofun held

/-- Volumes are written, or left out if there are none. A missing list is read as an
empty one. -/
theorem defaulted_devices (devices : List BlockDevice) :
    defaulted [] (list? BlockDevice.ofValue?)
      (if devices.isEmpty then none else some (.array (devices.map BlockDevice.toValue))) =
      some devices := by
  by_cases empty : devices.isEmpty = true
  · rw [if_pos empty, List.isEmpty_iff.mp empty, defaulted]
  · have given : Value.array (devices.map BlockDevice.toValue) ≠ .null := nofun
    rw [if_neg empty, defaulted_some given,
      list?_array BlockDevice.ofValue? BlockDevice.toValue BlockDevice.ofValue?_toValue]

/-- Attributes of an instance are read as they were written. Each field is found
under its name, and those that were left out are read as their defaults. -/
theorem Compute.ofValue?_toValue (compute : Compute) :
    Compute.ofValue? compute.toValue = some compute := by
  have subnet : defaulted "" Value.text? (some (.string compute.subnet)) =
      some compute.subnet := rfl
  have devices := defaulted_devices compute.blockDevices
  rw [Compute.toValue]
  -- whether there are volumes does not matter for the other fields
  generalize (if compute.blockDevices.isEmpty then none
    else some (Value.array (compute.blockDevices.map BlockDevice.toValue))) = written at devices ⊢
  obtain ⟨field, fields, given⟩ : ∃ field, fields? fieldNames (object [
      ("instance_type", some (.string compute.instanceType)),
      ("ami", some (.string compute.machineImage)), ("subnet_id", some (.string compute.subnet)),
      ("security_group_ids", some (.ofTexts compute.securityGroups)),
      ("iam_instance_profile", compute.instanceProfile.map .string),
      ("key_name", compute.keyName.map .string), ("ebs_block_devices", written),
      ("tags", some (ofTags compute.tags))]) = some field ∧ _ :=
    exists_fields?_object fieldNames (by simp)
  simp [Compute.ofValue?, fields, given, required_some, Value.text?, subnet, defaulted_ofTexts,
    optional_text, devices, defaulted_ofTags]

/-- Attributes of a bucket are read as they were written. Three of its fields are
options and may be left out. -/
theorem Storage.ofValue?_toValue (storage : Storage) :
    Storage.ofValue? storage.toValue = some storage := by
  obtain ⟨field, fields, given⟩ : ∃ field, fields? fieldNames storage.toValue = some field ∧ _ :=
    exists_fields?_object fieldNames (by simp)
  have versioned : defaulted false flag? (some (.bool storage.versioned)) =
      some storage.versioned := rfl
  have forceDestroy : optional flag? (storage.forceDestroy.map .bool) = some storage.forceDestroy :=
    optional_map flag? .bool (fun _ => rfl) nofun _
  simp [Storage.ofValue?, fields, given, required_some, Value.text?, versioned, forceDestroy,
    optional_text, defaulted_ofTags]

namespace Payload

/-- The tag and the attributes of a payload value are read, as both are members of
it. -/
theorem parts?_tagged (tag : String) {attributes : Value} (given : attributes ≠ .null) :
    parts? (tagged tag attributes) = some (tag, attributes) := by
  rw [tagged_eq]
  simp [parts?, Value.member?, Entries.get?, Value.text?, given]

/-- Null attributes are none, so a payload that has attributes does not have null
for them. -/
theorem attributes_ne_null {value attributes : Value} {tag : String}
    (parts : parts? value = some (tag, attributes)) : attributes ≠ .null := by
  rintro rfl
  obtain ⟨_, _, rest⟩ := Option.bind_eq_some_iff.mp parts
  obtain ⟨_, _, rest⟩ := Option.bind_eq_some_iff.mp rest
  obtain ⟨held, _, kept⟩ := Option.bind_eq_some_iff.mp rest
  split at kept
  · cases kept
  · rename_i given
    exact given (Prod.mk.inj (Option.some.inj kept)).2

/-- A payload of a known kind is written under its tag, and read from there. -/
theorem ofValue_tagged (kind : Kind) {attributes : Value} {payload : Payload}
    (given : attributes ≠ .null) (fit : ofAttributes? kind attributes = some payload) :
    ofValue (tagged kind.tag attributes) = payload := by
  simp [ofValue, parts?_tagged kind.tag given, Kind.ofTag?_tag, fit]

/-- A network is read as it was written. -/
theorem ofValue_toValue_network (attributes : Network) :
    ofValue (toValue (network attributes)) = network attributes :=
  ofValue_tagged .network nofun (by rw [ofAttributes?, Network.ofValue?_toValue, Option.map_some])

/-- An instance is read as it was written. -/
theorem ofValue_toValue_compute (attributes : Compute) :
    ofValue (toValue (compute attributes)) = compute attributes :=
  ofValue_tagged .compute nofun (by rw [ofAttributes?, Compute.ofValue?_toValue, Option.map_some])

/-- A bucket is read as it was written. -/
theorem ofValue_toValue_storage (attributes : Storage) :
    ofValue (toValue (storage attributes)) = storage attributes :=
  ofValue_tagged .storage nofun (by rw [ofAttributes?, Storage.ofValue?_toValue, Option.map_some])

/-- A payload of an unknown kind is of that kind when it was written, because its
tag stays unknown. -/
theorem ofValue_tagged_unknown {tag : String} {attributes : Value} (given : attributes ≠ .null)
    (unknown : Kind.ofTag? tag = none) :
    ofValue (tagged tag attributes) = unrecognized tag attributes := by
  simp [ofValue, parts?_tagged tag given, unknown]

/-- Attributes that fit a kind make a readable payload of that kind. -/
theorem kind?_of_ofAttributes? {kind : Kind} {attributes : Value} {payload : Payload}
    (fit : ofAttributes? kind attributes = some payload) : payload.kind? = some kind := by
  cases kind <;> obtain ⟨_, _, rfl⟩ := Option.map_eq_some_iff.mp fit <;> rfl

/-- A payload of an unknown kind has the tag and the attributes of its value; other
members are not kept. -/
theorem ofValue_eq_unrecognized {value attributes : Value} {tag : String}
    (read : ofValue value = unrecognized tag attributes) :
    parts? value = some (tag, attributes) ∧ Kind.ofTag? tag = none := by
  rw [ofValue] at read
  split at read
  · cases read
  · rename_i found held parts
    split at read
    · rename_i unknown
      cases read
      exact ⟨parts, unknown⟩
    · rename_i kind known
      cases fit : ofAttributes? kind held with
      | none => simp [fit] at read
      | some payload =>
        have readable := kind?_of_ofAttributes? fit
        rw [fit, Option.getD_some] at read
        rw [read] at readable
        cases readable

/-- What makes no sense is kept as the value that it came as. -/
theorem ofValue_eq_malformed {value raw : Value} (read : ofValue value = malformed raw) :
    raw = value := by
  have unreadable : (ofValue value).kind? = none := by rw [read, kind?]
  rcases unreadable_cases unreadable with whole | ⟨tag, attributes, _, unknown⟩
  · rw [whole] at read
    exact (malformed.inj read).symm
  · rw [unknown] at read
    cases read

/-- What was read from a value is read again when it was written. A payload that was
understood is written in full; one that was not is written as what makes it be read
so again. -/
theorem ofValue_toValue_ofValue (value : Value) :
    ofValue (toValue (ofValue value)) = ofValue value := by
  cases read : ofValue value with
  | network attributes => exact ofValue_toValue_network attributes
  | compute attributes => exact ofValue_toValue_compute attributes
  | storage attributes => exact ofValue_toValue_storage attributes
  | unrecognized tag attributes =>
    obtain ⟨parts, unknown⟩ := ofValue_eq_unrecognized read
    exact ofValue_tagged_unknown (attributes_ne_null parts) unknown
  | malformed raw =>
    obtain rfl := ofValue_eq_malformed read
    rw [toValue, read]

/-- Attributes of every kind are read as they were written, and whatever value a
payload was read from, writing the payload and reading that gives the payload again.
-/
theorem recoding_changes_nothing :
    (∀ attributes : Network, ofValue (toValue (network attributes)) = network attributes) ∧
      (∀ attributes : Compute, ofValue (toValue (compute attributes)) = compute attributes) ∧
      (∀ attributes : Storage, ofValue (toValue (storage attributes)) = storage attributes) ∧
      ∀ value : Value, ofValue (toValue (ofValue value)) = ofValue value :=
  ⟨ofValue_toValue_network, ofValue_toValue_compute, ofValue_toValue_storage,
    ofValue_toValue_ofValue⟩

end Payload

end CloudDiagram
