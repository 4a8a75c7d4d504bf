import CloudDiagram.Json.Value
import Mathlib.Data.List.Basic

/-!
# Doubles in values

A change of doubles is carried into a value: every number that is a double is replaced, wherever
it stands, and nothing else is touched. The value stays the same exactly if each of its doubles
does.
-/

namespace CloudDiagram.Json.Value

open Numeric

mutual

/-- The value with every double in it replaced. Integers are not doubles, also where
a double could stand. -/
def mapDoubles (f : FiniteDouble → FiniteDouble) : Value → Value
  | null => null
  | bool flag => bool flag
  | number (.integer whole) => number (.integer whole)
  | number (.double x) => number (.double (f x))
  | string text => string text
  | array items => array (mapDoublesItems f items)
  | object members => object (mapDoublesMembers f members)

/-- The items with every double in them replaced; their number and order stay. -/
def mapDoublesItems (f : FiniteDouble → FiniteDouble) : List Value → List Value
  | [] => []
  | item :: rest => item.mapDoubles f :: mapDoublesItems f rest

/-- The members with every double in them replaced; keys hold none. -/
def mapDoublesMembers (f : FiniteDouble → FiniteDouble) :
    List (String × Value) → List (String × Value)
  | [] => []
  | (key, value) :: rest => (key, value.mapDoubles f) :: mapDoublesMembers f rest

end

mutual

/-- The doubles in a value, in the order of the text. They are what `mapDoubles`
replaces. -/
def doubles : Value → List FiniteDouble
  | null | bool _ | number (.integer _) | string _ => []
  | number (.double x) => [x]
  | array items => doublesItems items
  | object members => doublesMembers members

/-- The doubles in items. -/
def doublesItems : List Value → List FiniteDouble
  | [] => []
  | item :: rest => item.doubles ++ doublesItems rest

/-- The doubles in members. -/
def doublesMembers : List (String × Value) → List FiniteDouble
  | [] => []
  | (_, value) :: rest => value.doubles ++ doublesMembers rest

end

variable (f : FiniteDouble → FiniteDouble)

/-- Items are changed one by one, so what is known of lists that are mapped applies
to them. -/
theorem mapDoublesItems_eq (items : List Value) :
    mapDoublesItems f items = items.map (mapDoubles f) := by
  induction items with
  | nil => rfl
  | cons item items inductionHypothesis => rw [mapDoublesItems, inductionHypothesis, List.map_cons]

/-- Members are changed one by one and keep their keys, so the order of the keys
stays too. -/
theorem mapDoublesMembers_eq (members : List (String × Value)) :
    mapDoublesMembers f members = members.map fun member => (member.1, member.2.mapDoubles f) := by
  induction members with
  | nil => rfl
  | cons member members inductionHypothesis =>
    rw [mapDoublesMembers, inductionHypothesis, List.map_cons]

mutual

/-- A value is not changed exactly if none of its doubles is. The cases are those of
the value, and arrays and objects ask the same of their parts. -/
theorem mapDoubles_eq_self_iff : (value : Value) →
    (value.mapDoubles f = value ↔ ∀ x ∈ value.doubles, f x = x)
  | null | bool _ | number (.integer _) | string _ => by simp [mapDoubles, doubles]
  | number (.double x) => by simp [mapDoubles, doubles]
  | array items => by simp [mapDoubles, doubles, mapDoublesItems_eq_self_iff items]
  | object members => by simp [mapDoubles, doubles, mapDoublesMembers_eq_self_iff members]

/-- Items are not changed exactly if none of their doubles is. -/
theorem mapDoublesItems_eq_self_iff : (items : List Value) →
    (mapDoublesItems f items = items ↔ ∀ x ∈ doublesItems items, f x = x)
  | [] => by simp [mapDoublesItems, doublesItems]
  | item :: rest => by
    simp [mapDoublesItems, doublesItems, mapDoubles_eq_self_iff item,
      mapDoublesItems_eq_self_iff rest, or_imp, forall_and]

/-- Members are not changed exactly if none of their doubles is. -/
theorem mapDoublesMembers_eq_self_iff : (members : List (String × Value)) →
    (mapDoublesMembers f members = members ↔ ∀ x ∈ doublesMembers members, f x = x)
  | [] => by simp [mapDoublesMembers, doublesMembers]
  | (key, value) :: rest => by
    simp [mapDoublesMembers, doublesMembers, mapDoubles_eq_self_iff value,
      mapDoublesMembers_eq_self_iff rest, or_imp, forall_and]

end

end CloudDiagram.Json.Value
