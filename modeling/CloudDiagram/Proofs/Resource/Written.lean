import CloudDiagram.Proofs.Json.Values
import CloudDiagram.Proofs.Resource.Codec

/-!
# What payloads are written as

The value of a payload has its members in key order throughout, if the value that the payload
came from had: attributes are inserted one by one, tags are kept in order, and what was not
understood is kept as it came. A readable payload nests four levels deep at most, for a volume
in the list of volumes; any other nests no deeper than what it came from.
-/

namespace CloudDiagram

open Json Json.Value

/-- Of entries that were inserted one by one nothing else is left; some may have
been replaced. -/
theorem Entries.mem_ofList {α : Type} {entries : List (String × α)} {entry : String × α}
    (member : entry ∈ ofList entries) : entry ∈ entries := by
  induction entries using List.reverseRecOn with
  | nil => exact member
  | append_singleton entries last inductionHypothesis =>
    rw [ofList, List.foldl_append] at member
    rcases mem_insert member with rfl | before
    · exact List.mem_append_right _ List.mem_cons_self
    · exact List.mem_append_left _ (inductionHypothesis before)

namespace Attributes

/-- An object of fields nests one level deeper than the fields. Inserting them one
by one keeps their keys in order. -/
theorem within_object {depth : Nat} {members : List (String × Option Value)}
    (parts : ∀ member ∈ members, ∀ value ∈ member.2, value.Within depth) :
    (object members).Within (depth + 1) := by
  refine .object ⟨Entries.ofList_ordered _, ?_⟩
  intro entry present
  obtain ⟨⟨key, held⟩, member, given⟩ := List.mem_filterMap.mp (Entries.mem_ofList present)
  obtain ⟨value, found, rfl⟩ := Option.map_eq_some_iff.mp given
  exact parts (key, held) member value found

/-- Tags are an object of texts in key order, as a table keeps its keys in order. -/
theorem within_ofTags (tags : Tags) : (ofTags tags).Within 1 := by
  refine .object ⟨List.pairwise_map.mpr tags.ordered, ?_⟩
  intro entry present
  obtain ⟨tag, -, rfl⟩ := List.mem_map.mp present
  exact .of_scalar rfl 0

/-- Texts are an array without inner brackets. -/
theorem within_ofTexts (texts : List String) : (Value.ofTexts texts).Within 1 := by
  refine .array ?_
  intro item present
  obtain ⟨text, -, rfl⟩ := List.mem_map.mp present
  exact .of_scalar rfl 0

end Attributes

open Attributes

/-- What is written without brackets, if it is set, is allowed everywhere. -/
theorem within_optional {α : Type} {write : α → Value} (scalar : ∀ a, (write a).nesting = 0)
    (held : Option α) (depth : Nat) : ∀ value ∈ held.map write, value.Within depth := by
  intro value found
  obtain ⟨a, -, rfl⟩ := Option.map_eq_some_iff.mp found
  exact .of_scalar (scalar a) depth

/-- Attributes of a network nest as deep as their tags, which are their only object.
-/
theorem Network.within_toValue (network : Network) : network.toValue.Within 2 := by
  refine within_object ?_
  simp only [List.forall_mem_cons, Option.mem_some_iff, forall_eq']
  exact ⟨.of_scalar rfl 1, .of_scalar rfl 1, within_ofTags network.tags, nofun⟩

/-- A volume has texts and a number, so it nests one level deep. -/
theorem BlockDevice.within_toValue (device : BlockDevice) : device.toValue.Within 1 := by
  refine within_object ?_
  simp only [List.forall_mem_cons, Option.mem_some_iff, forall_eq']
  exact ⟨.of_scalar rfl 0, .of_scalar rfl 0, .of_scalar rfl 0, nofun⟩

/-- Attributes of an instance nest as deep as its list of volumes, one level deeper
than tags and texts do. -/
theorem Compute.within_toValue (compute : Compute) : compute.toValue.Within 3 := by
  have devices : (Value.array (compute.blockDevices.map BlockDevice.toValue)).Within 2 := by
    refine .array ?_
    intro item present
    obtain ⟨device, -, rfl⟩ := List.mem_map.mp present
    exact device.within_toValue
  refine within_object ?_
  simp only [List.forall_mem_cons, Option.mem_some_iff, forall_eq']
  refine ⟨.of_scalar rfl 2, .of_scalar rfl 2, .of_scalar rfl 2,
    (within_ofTexts compute.securityGroups).mono (by decide),
    within_optional (fun _ => rfl) compute.instanceProfile 2,
    within_optional (fun _ => rfl) compute.keyName 2, ?_,
    (within_ofTags compute.tags).mono (by decide), nofun⟩
  intro value found
  split at found
  · cases found
  · obtain rfl := Option.some.inj found
    exact devices

/-- Attributes of a bucket nest as deep as their tags. -/
theorem Storage.within_toValue (storage : Storage) : storage.toValue.Within 2 := by
  refine within_object ?_
  simp only [List.forall_mem_cons, Option.mem_some_iff, forall_eq']
  exact ⟨.of_scalar rfl 1, .of_scalar rfl 1, within_optional (fun _ => rfl) storage.forceDestroy 1,
    within_optional (fun _ => rfl) storage.accessControl 1,
    within_optional (fun _ => rfl) storage.policy 1, within_ofTags storage.tags, nofun⟩

namespace Payload

/-- A payload nests one level deeper than its attributes. -/
theorem within_tagged (tag : String) {depth : Nat} {attributes : Value}
    (within : attributes.Within depth) : (tagged tag attributes).Within (depth + 1) := by
  refine within_object ?_
  simp only [List.forall_mem_cons, Option.mem_some_iff, forall_eq']
  exact ⟨.of_scalar rfl depth, within, nofun⟩

/-- A readable payload nests four levels deep at most, the most for an instance with
volumes. -/
theorem within_readable {payload : Payload} {kind : Kind} (readable : payload.kind? = some kind) :
    payload.toValue.Within 4 := by
  cases payload with
  | network attributes => exact (within_tagged _ attributes.within_toValue).mono (by decide)
  | compute attributes => exact within_tagged _ attributes.within_toValue
  | storage attributes => exact (within_tagged _ attributes.within_toValue).mono (by decide)
  | unrecognized _ _ | malformed _ => cases readable

/-- A payload that came from a value nests no deeper than that, or four levels. What
was not understood is written as it came or with fewer members. -/
theorem within_toValue_ofValue {depth : Nat} {value : Value} (within : value.Within depth)
    (enough : 4 ≤ depth) : (toValue (ofValue value)).Within depth := by
  cases read : ofValue value with
  | network _ | compute _ | storage _ => exact (within_readable rfl).mono enough
  | unrecognized tag attributes =>
    obtain ⟨parts, -⟩ := ofValue_eq_unrecognized read
    obtain ⟨members, rfl, -, found⟩ := members_of_parts? parts
    obtain ⟨inner, rfl, inside⟩ := within.of_object
    obtain ⟨entry, present, rfl⟩ := Option.map_eq_some_iff.mp found
    exact within_tagged tag (inside.parts entry (List.mem_of_find?_eq_some present))
  | malformed raw =>
    obtain rfl := ofValue_eq_malformed read
    exact within

/-- A payload is read as it was written, from a value with its members in key order.
All payloads of a session are of this kind, however they came there. -/
structure Faithful (payload : Payload) : Prop where
  canonical : payload.toValue.Canonical
  read : ofValue payload.toValue = payload

/-- A readable payload is read as it was written, whether or not it came from a
value. -/
theorem faithful_readable {payload : Payload} {kind : Kind}
    (readable : payload.kind? = some kind) : payload.Faithful where
  canonical := (within_readable readable).canonical
  read := by
    cases payload with
    | network attributes => exact ofValue_toValue_network attributes
    | compute attributes => exact ofValue_toValue_compute attributes
    | storage attributes => exact ofValue_toValue_storage attributes
    | unrecognized _ _ | malformed _ => cases readable

/-- A payload that came from a value is read as it was written, if the value was
canonical. -/
theorem faithful_ofValue {value : Value} (canonical : value.Canonical) :
    (ofValue value).Faithful where
  canonical :=
    (within_toValue_ofValue ⟨canonical, Nat.le_max_left value.nesting 4⟩
      (Nat.le_max_right _ _)).canonical
  read := ofValue_toValue_ofValue value

end Payload

end CloudDiagram
