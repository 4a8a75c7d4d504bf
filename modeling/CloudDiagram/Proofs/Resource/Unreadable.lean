import CloudDiagram.Resource.Payload

/-!
# Payloads that are kept without being understood

A payload that cannot be read is written back for the editor to show again. What made no
sense is kept as the whole value that it came as, whether the kind was missing, the
attributes were, or they did not fit the kind. Of a payload of an unknown kind only the
tag and the attributes are kept, so it comes back whole exactly if it held nothing else;
members beside these two are lost.

Members of an object stand in key order here, as they do in every value that was read.
-/

namespace CloudDiagram

namespace Entries

variable {α : Type}

/-- Of ordered entries at most one stands under a key, and it is the one that is
found. -/
theorem Ordered.filter_key {entries : List (String × α)} (ordered : Ordered entries)
    (key : String) :
    entries.filter (fun entry => entry.1 = key) = ((get? entries key).map (key, ·)).toList := by
  induction entries with
  | nil => rfl
  | cons head rest inductionHypothesis =>
    obtain ⟨headFirst, restOrdered⟩ := List.pairwise_cons.mp ordered
    by_cases found : head.1 = key
    · have others : rest.filter (fun entry => entry.1 = key) = [] := by
        rw [List.filter_eq_nil_iff]
        intro entry member same
        have above := headFirst entry member
        rw [of_decide_eq_true same, found] at above
        exact String.lt_irrefl _ above
      subst found
      simp [get?, others]
    · have kept := inductionHypothesis restOrdered
      simp only [get?] at kept
      simp [get?, found, kept]

/-- Of ordered entries those under two keys are the one under the lower key and then
the one under the higher. -/
theorem Ordered.filter_keys {entries : List (String × α)} (ordered : Ordered entries)
    {low high : String} (lower : low < high) :
    entries.filter (fun entry => entry.1 ∈ [low, high]) =
      entries.filter (fun entry => entry.1 = low) ++
        entries.filter (fun entry => entry.1 = high) := by
  have different : low ≠ high := by
    rintro rfl
    exact String.lt_irrefl _ lower
  induction entries with
  | nil => rfl
  | cons head rest inductionHypothesis =>
    obtain ⟨headFirst, restOrdered⟩ := List.pairwise_cons.mp ordered
    have split := inductionHypothesis restOrdered
    simp only [List.mem_cons, List.not_mem_nil, or_false, Bool.decide_or] at split
    by_cases isLow : head.1 = low
    · simp [isLow, different, split]
    · by_cases isHigh : head.1 = high
      · -- every later key is above the higher one, so the lower one cannot follow
        have noLow : rest.filter (fun entry => entry.1 = low) = [] := by
          rw [List.filter_eq_nil_iff]
          intro entry member same
          have above := headFirst entry member
          rw [of_decide_eq_true same, isHigh] at above
          exact String.lt_irrefl _ (String.lt_trans lower above)
        simp [isHigh, different.symm, split, noLow]
      · simp [isLow, isHigh, split]

end Entries

namespace Json.Value

/-- The keys of an object; any other value has none. -/
def keys : Value → List String
  | .object members => members.map Prod.fst
  | .null | .bool _ | .number _ | .string _ | .array _ => []

/-- The object with only its members of the given names, in the order that they had.
-/
def restrict (names : List String) : Value → Value
  | .object members => .object (members.filter fun member => member.1 ∈ names)
  | value => value

/-- The members of an object stand in key order. -/
def Sorted : Value → Prop
  | .object members => Entries.Ordered members
  | .null | .bool _ | .number _ | .string _ | .array _ => True

/-- A restricted value is the value itself exactly if it has no other keys. A value
that is no object has none and is not changed. -/
theorem restrict_eq_self_iff {names : List String} {value : Value} :
    value.restrict names = value ↔ ∀ key ∈ value.keys, key ∈ names := by
  cases value with
  | object members => simp [restrict, keys]
  | null | bool _ | number _ | string _ | array _ => simp [restrict, keys]

end Json.Value

namespace Payload

open Json

/-- The two members of a payload value stand in key order. -/
theorem tagged_eq (tag : String) (attributes : Value) :
    tagged tag attributes = .object [("data", attributes), ("type", .string tag)] := by
  have lower : "data" < "type" := by decide
  simp [tagged, Attributes.object, Entries.ofList, Entries.insert, lower]

/-- A tag and attributes are members of an object, under the two names of a payload.
-/
theorem members_of_parts? {value attributes : Value} {tag : String}
    (parts : parts? value = some (tag, attributes)) :
    ∃ members, value = .object members ∧ Entries.get? members "type" = some (.string tag) ∧
      Entries.get? members "data" = some attributes := by
  obtain ⟨kind, typed, rest⟩ := Option.bind_eq_some_iff.mp parts
  obtain ⟨text, named, rest⟩ := Option.bind_eq_some_iff.mp rest
  obtain ⟨held, found, kept⟩ := Option.bind_eq_some_iff.mp rest
  split at kept
  · cases kept
  · obtain ⟨rfl, rfl⟩ := Prod.mk.inj (Option.some.inj kept)
    obtain rfl : kind = .string text := by
      cases kind <;> simp_all [Value.text?]
    cases value with
    | object members => exact ⟨members, rfl, typed, found⟩
    | null | bool _ | number _ | string _ | array _ => cases typed

/-- A tag and attributes that were taken from a sorted value are all that is left of it
when every other member is dropped. -/
theorem tagged_of_parts? {value attributes : Value} {tag : String} (sorted : value.Sorted)
    (parts : parts? value = some (tag, attributes)) :
    tagged tag attributes = value.restrict ["data", "type"] := by
  obtain ⟨members, rfl, typed, found⟩ := members_of_parts? parts
  have ordered : Entries.Ordered members := sorted
  have lower : "data" < "type" := by decide
  rw [tagged_eq, Value.restrict, ordered.filter_keys lower, ordered.filter_key,
    ordered.filter_key, found, typed]
  rfl

/-- What cannot be read is either kept as the whole value, or is of an unknown kind.
Only in the second case members can get lost. -/
theorem unreadable_cases {value : Value} (unreadable : (ofValue value).kind? = none) :
    ofValue value = malformed value ∨
      ∃ tag attributes, parts? value = some (tag, attributes) ∧
        ofValue value = unrecognized tag attributes := by
  rw [ofValue] at unreadable ⊢
  cases parts : parts? value with
  | none => exact Or.inl rfl
  | some found =>
    obtain ⟨tag, attributes⟩ := found
    simp only [parts] at unreadable ⊢
    cases known : Kind.ofTag? tag with
    | none => exact Or.inr ⟨tag, attributes, rfl, rfl⟩
    | some kind =>
      simp only [known] at unreadable ⊢
      cases fit : ofAttributes? kind attributes with
      | none => exact Or.inl rfl
      | some payload =>
        -- attributes that fit make a readable payload
        rw [fit, Option.getD_some] at unreadable
        cases kind <;> obtain ⟨_, _, rfl⟩ := Option.map_eq_some_iff.mp fit <;> cases unreadable

/-- A payload that cannot be read comes back as the value that it came as exactly if it is
kept as a whole or has no member beside its tag and its attributes. Otherwise what comes
back is the value with these two members only. -/
theorem unreadable_comes_back {value : Value} (sorted : value.Sorted)
    (unreadable : (ofValue value).kind? = none) :
    (toValue (ofValue value) = value ↔
        ofValue value = malformed value ∨ ∀ key ∈ value.keys, key ∈ ["data", "type"]) ∧
      (ofValue value ≠ malformed value →
        toValue (ofValue value) = value.restrict ["data", "type"]) := by
  rcases unreadable_cases unreadable with whole | ⟨tag, attributes, parts, unknown⟩
  · constructor
    · simp [whole, toValue]
    · intro different
      exact absurd whole different
  · have written : toValue (ofValue value) = value.restrict ["data", "type"] := by
      rw [unknown, toValue, tagged_of_parts? sorted parts]
    have other : ofValue value ≠ malformed value := by simp [unknown]
    constructor
    · rw [written, Value.restrict_eq_self_iff, or_iff_right other]
    · intro _
      exact written

/-- Of a payload of an unknown kind with a note, the tag and the attributes come back. -/
theorem comes_back_without_note :
    let value : Value :=
      .object [("data", .object [("engine", .string "postgres")]), ("note", .string "draft"),
        ("type", .string "rds")]
    value.Sorted ∧ (ofValue value).kind? = none ∧
      toValue (ofValue value) =
        .object [("data", .object [("engine", .string "postgres")]), ("type", .string "rds")] := by
  intro value
  have sorted : value.Sorted := by
    change Entries.Ordered _
    decide
  have unreadable : (ofValue value).kind? = none := by decide
  have kept : value.restrict ["data", "type"] =
      .object [("data", .object [("engine", .string "postgres")]), ("type", .string "rds")] := by
    decide
  have unknown : ofValue value ≠ malformed value := by decide
  exact ⟨sorted, unreadable, ((unreadable_comes_back sorted unreadable).2 unknown).trans kept⟩

/-- The note is lost: not every payload that cannot be read comes back as it came.
The kind is unknown and the attributes are kept, but nothing holds what stands
beside them. -/
theorem note_does_not_come_back :
    ¬∀ value : Value, value.Sorted → (ofValue value).kind? = none →
      toValue (ofValue value) = value := by
  intro verbatim
  have sorted : Value.Sorted (.object [("data", .object []), ("note", .string "draft"),
      ("type", .string "rds")]) := by
    change Entries.Ordered _
    decide
  have same := verbatim _ sorted (by decide)
  revert same
  decide

end Payload

end CloudDiagram
