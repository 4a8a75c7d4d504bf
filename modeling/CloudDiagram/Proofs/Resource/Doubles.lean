import CloudDiagram.Proofs.Json.Doubles
import CloudDiagram.Proofs.Resource.Codec

/-!
# Payloads and the doubles in them

No field of a resource is a double, and where one is found in place of a text, a truth value or
a whole number, it does not matter which one it is. So a payload that was understood does not
depend on doubles at all, and one that was not understood holds them as they came. Replacing the
doubles of a value neither changes which payload the value describes nor makes another value
readable.
-/

namespace CloudDiagram

open Json Numeric Json.Value

variable {α : Type}

/-- The value under a key is changed with the others, since keys stay as they are.
-/
theorem Entries.get?_map {β : Type} (f : α → β) (entries : List (String × α)) (key : String) :
    get? (entries.map fun entry => (entry.1, f entry.2)) key = (get? entries key).map f := by
  rw [get?, get?, List.find?_map, Option.map_map, Option.map_map]
  rfl

namespace Attributes

/-- The reader gives the same whatever doubles stand in the value. It may accept or
refuse them, but not tell them apart. -/
def Blind (read : Value → Option α) : Prop :=
  ∀ (f : FiniteDouble → FiniteDouble) (value : Value), read (value.mapDoubles f) = read value

/-- A double is no text, whichever it is. -/
theorem blind_text? : Blind Value.text? := by
  intro f value
  cases value with
  | number number => cases number <;> rfl
  | null | bool _ | string _ | array _ | object _ => rfl

/-- A double is no truth value, whichever it is. -/
theorem blind_flag? : Blind flag? := by
  intro f value
  cases value with
  | number number => cases number <;> rfl
  | null | bool _ | string _ | array _ | object _ => rfl

/-- A double is no size, even if it is a whole number: only integers are read as
sizes. -/
theorem blind_size? : Blind size? := by
  intro f value
  cases value with
  | number number => cases number <;> rfl
  | null | bool _ | string _ | array _ | object _ => rfl

/-- A list is read item by item, so it is read alike if its items are. -/
theorem Blind.list? {item : Value → Option α} (blind : Blind item) : Blind (list? item) := by
  intro f value
  cases value with
  | array items =>
    have each : (fun value => item (value.mapDoubles f)) = item := funext (blind f)
    change (mapDoublesItems f items).mapM item = items.mapM item
    rw [mapDoublesItems_eq, List.mapM_map]
    exact congrArg (items.mapM ·) each
  | number number => cases number <;> rfl
  | null | bool _ | string _ | object _ => rfl

/-- Tags are texts, each of them, and their keys hold no doubles. -/
theorem blind_tags? : Blind Attributes.tags? := by
  intro f value
  cases value with
  | object members =>
    have each : (fun member : String × Value => tag? (member.1, member.2.mapDoubles f)) = tag? :=
      funext fun member => congrArg (Option.map _) (blind_text? f member.2)
    change ((mapDoublesMembers f members).mapM tag?).map Table.ofList =
      (members.mapM tag?).map Table.ofList
    rw [mapDoublesMembers_eq, List.mapM_map]
    exact congrArg (fun read => (members.mapM read).map Table.ofList) each
  | number number => cases number <;> rfl
  | null | bool _ | string _ | array _ => rfl

section Fields

variable {read : Value → Option α} (blind : Blind read) (f : FiniteDouble → FiniteDouble)
include blind

/-- A required field is read alike, and is missing in both cases or in none. -/
theorem Blind.required (field : Option Value) :
    required read (field.map (mapDoubles f)) = required read field := by
  cases field with
  | none => rfl
  | some value => exact blind f value

/-- A field with a default is read alike: a double is not null. -/
theorem Blind.defaulted (default : α) (field : Option Value) :
    defaulted default read (field.map (mapDoubles f)) = defaulted default read field := by
  cases field with
  | none => rfl
  | some value =>
    cases value with
    | null => rfl
    | number number => cases number <;> exact blind f _
    | bool _ | string _ | array _ | object _ => exact blind f _

/-- An optional field is read alike, as null stays null and nothing else becomes
null. -/
theorem Blind.optional (field : Option Value) :
    optional read (field.map (mapDoubles f)) = optional read field := by
  cases field with
  | none => rfl
  | some value =>
    cases value with
    | null => rfl
    | number number => cases number <;> exact congrArg (Option.map some) (blind f _)
    | bool _ | string _ | array _ | object _ => exact congrArg (Option.map some) (blind f _)

end Fields

/-- What stands under a name is changed with the others. -/
theorem lookup_map (change : Value → Value) (fields : List (String × Value)) (name : String) :
    (fields.map (Prod.map id change)).lookup name = (fields.lookup name).map change := by
  induction fields with
  | nil => rfl
  | cons field fields inductionHypothesis =>
    obtain ⟨key, value⟩ := field
    rw [List.map_cons, Prod.map_apply, id_eq, List.lookup_cons, List.lookup_cons,
      inductionHypothesis]
    cases name == key <;> rfl

/-- The fields of attributes are found under the same names, with their doubles
replaced. This holds for attributes that are an object and for those that are an
array. -/
theorem fields?_mapDoubles (names : List String) (f : FiniteDouble → FiniteDouble) (value : Value) :
    fields? names (value.mapDoubles f) =
      (fields? names value).map fun field name => (field name).map (mapDoubles f) := by
  cases value with
  | object members =>
    change some _ = some _
    refine congrArg some (funext fun name => ?_)
    rw [mapDoublesMembers_eq, Entries.get?_map]
  | array items =>
    have found (name : String) : (names.zip (mapDoublesItems f items)).lookup name =
        ((names.zip items).lookup name).map (mapDoubles f) := by
      rw [mapDoublesItems_eq, List.zip_map_right]
      exact lookup_map _ _ _
    have count : (mapDoublesItems f items).length = items.length := by
      rw [mapDoublesItems_eq, List.length_map]
    simp only [mapDoubles, fields?, found, count]
    split <;> rfl
  | number number => cases number <;> rfl
  | null | bool _ | string _ => rfl

end Attributes

open Attributes

/-- Attributes of a network hold no doubles: all of their fields are texts. -/
theorem Network.blind_ofValue? : Blind Network.ofValue? := by
  intro f value
  rw [Network.ofValue?, Network.ofValue?, fields?_mapDoubles]
  cases fields? fieldNames value with
  | none => rfl
  | some field => simp [blind_text?.required, blind_tags?.defaulted]

/-- A volume holds no doubles, as its size is a whole number. -/
theorem BlockDevice.blind_ofValue? : Blind BlockDevice.ofValue? := by
  intro f value
  rw [BlockDevice.ofValue?, BlockDevice.ofValue?, fields?_mapDoubles]
  cases fields? fieldNames value with
  | none => rfl
  | some field => simp [blind_text?.required, blind_size?.required]

/-- Attributes of an instance hold no doubles, in their volumes as little as
elsewhere. -/
theorem Compute.blind_ofValue? : Blind Compute.ofValue? := by
  intro f value
  rw [Compute.ofValue?, Compute.ofValue?, fields?_mapDoubles]
  cases fields? fieldNames value with
  | none => rfl
  | some field =>
    simp [blind_text?.required, blind_text?.defaulted, blind_text?.optional,
      blind_text?.list?.defaulted, BlockDevice.blind_ofValue?.list?.defaulted,
      blind_tags?.defaulted]

/-- Attributes of a bucket hold no doubles: their fields are texts and truth values.
-/
theorem Storage.blind_ofValue? : Blind Storage.ofValue? := by
  intro f value
  rw [Storage.ofValue?, Storage.ofValue?, fields?_mapDoubles]
  cases fields? fieldNames value with
  | none => rfl
  | some field =>
    simp [blind_text?.required, blind_text?.optional, blind_flag?.defaulted, blind_flag?.optional,
      blind_tags?.defaulted]

namespace Payload

/-- The payload with every double in it replaced. What was understood has none. -/
def mapDoubles (f : FiniteDouble → FiniteDouble) : Payload → Payload
  | network attributes => network attributes
  | compute attributes => compute attributes
  | storage attributes => storage attributes
  | unrecognized tag attributes => unrecognized tag (attributes.mapDoubles f)
  | malformed raw => malformed (raw.mapDoubles f)

/-- The doubles in a payload. Only what was not understood has any. -/
def doubles : Payload → List FiniteDouble
  | network _ | compute _ | storage _ => []
  | unrecognized _ attributes => attributes.doubles
  | malformed raw => raw.doubles

variable (f : FiniteDouble → FiniteDouble)

/-- A payload is not changed exactly if none of its doubles is. -/
theorem mapDoubles_eq_self_iff (payload : Payload) :
    payload.mapDoubles f = payload ↔ ∀ x ∈ payload.doubles, f x = x := by
  cases payload with
  | network _ | compute _ | storage _ => simp [mapDoubles, doubles]
  | unrecognized tag attributes => simp [mapDoubles, doubles, attributes.mapDoubles_eq_self_iff]
  | malformed raw => simp [mapDoubles, doubles, raw.mapDoubles_eq_self_iff]

/-- A readable payload has no doubles, so it is not changed. -/
theorem mapDoubles_readable {payload : Payload} {kind : Kind}
    (readable : payload.kind? = some kind) : payload.mapDoubles f = payload := by
  cases payload with
  | network _ | compute _ | storage _ => rfl
  | unrecognized _ _ | malformed _ => cases readable

/-- Tag and attributes are found in the same values, with their doubles replaced. A
double is neither the tag of a payload nor null. -/
theorem parts?_mapDoubles (value : Value) :
    parts? (value.mapDoubles f) =
      (parts? value).map fun (tag, attributes) => (tag, attributes.mapDoubles f) := by
  have member (key : String) :
      (value.mapDoubles f).member? key = (value.member? key).map (Value.mapDoubles f) := by
    cases value with
    | object members =>
      change Entries.get? (mapDoublesMembers f members) key = _
      rw [mapDoublesMembers_eq, Entries.get?_map]
      rfl
    | number number => cases number <;> rfl
    | null | bool _ | string _ | array _ => rfl
  have null_iff (attributes : Value) :
      attributes.mapDoubles f = .null ↔ attributes = .null := by
    cases attributes with
    | number number => cases number <;> simp [Value.mapDoubles]
    | null | bool _ | string _ | array _ | object _ => simp [Value.mapDoubles]
  rw [parts?, parts?, member, member]
  cases value.member? "type" with
  | none => rfl
  | some type =>
    simp only [Option.map_some, Option.bind_eq_bind, Option.bind_some, blind_text? f type]
    cases type.text? with
    | none => rfl
    | some tag =>
      cases value.member? "data" with
      | none => rfl
      | some attributes =>
        simp only [Option.map_some, Option.bind_some, null_iff]
        split <;> rfl

/-- The attributes of a kind hold no doubles, so they fit it or not whatever doubles
stand in the value. -/
theorem blind_ofAttributes? (kind : Kind) : Blind (ofAttributes? kind) := by
  intro f value
  cases kind with
  | network => exact congrArg (Option.map _) (Network.blind_ofValue? f value)
  | compute => exact congrArg (Option.map _) (Compute.blind_ofValue? f value)
  | storage => exact congrArg (Option.map _) (Storage.blind_ofValue? f value)

/-- Replacing the doubles of a value replaces those of the payload that it
describes. What is read from a changed text is therefore the payload as it was, with
its doubles changed. -/
theorem ofValue_mapDoubles (value : Value) :
    ofValue (value.mapDoubles f) = (ofValue value).mapDoubles f := by
  rw [ofValue, ofValue, parts?_mapDoubles]
  cases parts? value with
  | none => rfl
  | some parts =>
    obtain ⟨tag, attributes⟩ := parts
    dsimp only [Option.map_some]
    cases Kind.ofTag? tag with
    | none => rfl
    | some kind =>
      dsimp only
      rw [blind_ofAttributes?]
      cases fit : ofAttributes? kind attributes with
      | none => rfl
      | some payload => exact (mapDoubles_readable f (kind?_of_ofAttributes? fit)).symm

end Payload

end CloudDiagram
