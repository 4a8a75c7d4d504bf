import CloudDiagram.Numeric.Binary64
import CloudDiagram.Table

/-!
# JSON values

A number is an integer when it is written as one and fits 64 bits, signed or
unsigned; any other number is a finite double. Members of an object are a list,
because records are written in the order of their fields; a value that was read
from a text, or that encodes a payload, holds them in increasing key order.
-/

namespace CloudDiagram.Json

open Numeric

/-- An integer of 64 bits, signed or unsigned: from `-2 ^ 63` on and below `2 ^ 64`.
The bounds are part of the structure, so each integer that is written can be read.
-/
structure WideInt where
  value : Int
  bounded : -9223372036854775808 ≤ value ∧ value < 18446744073709551616
deriving DecidableEq, Repr

namespace WideInt

/-- The wide integer of a value, if it is in range. A number that is not is read as
a double. -/
def ofInt? (value : Int) : Option WideInt :=
  if bounded : -9223372036854775808 ≤ value ∧ value < 18446744073709551616 then
    some ⟨value, bounded⟩
  else none

/-- A word of 64 bits is in range, as the range is made for these. -/
def ofUInt64 (word : UInt64) : WideInt :=
  ⟨word.toNat, by have := word.toNat_lt; omega⟩

/-- A word of 32 bits is in range, so a size is written as an integer and read back
as one. -/
def ofUInt32 (word : UInt32) : WideInt :=
  ⟨word.toNat, by have := word.toNat_lt; omega⟩

/-- The nearest double. Above `2 ^ 53` not every integer is a double, so this may
lose digits. -/
def toFinite (number : WideInt) : FiniteDouble :=
  (FiniteDouble.ofDecimal? (number.value < 0) ⟨number.value.natAbs, 0⟩).getD FiniteDouble.zero

end WideInt

/-- A number, as a JSON text can denote it. The two sorts are never equal, so one
and one point zero are different values. -/
inductive Number where
  | integer (value : WideInt)
  | double (value : FiniteDouble)
deriving DecidableEq, Repr

/-- The double nearest to a number. It is what a reader takes that wants a double
and meets an integer. -/
def Number.toFinite : Number → FiniteDouble
  | .integer value => value.toFinite
  | .double value => value

/-- A JSON value. The members of an object may be in any order here; the readers put
them in the order of their keys. -/
inductive Value where
  | null
  | bool (value : Bool)
  | number (value : Number)
  | string (value : String)
  | array (items : List Value)
  | object (members : List (String × Value))
deriving Repr

namespace Value

instance : Inhabited Value := ⟨null⟩

mutual

/-- Equality of values is decided by comparing them part by part. It is written out,
as nothing derives it for a type that is nested in lists of itself. -/
def decideEq : (left right : Value) → Decidable (left = right)
  | null, null => isTrue rfl
  | bool left, bool right => decidable_of_iff (left = right) (by simp)
  | number left, number right => decidable_of_iff (left = right) (by simp)
  | string left, string right => decidable_of_iff (left = right) (by simp)
  | array left, array right =>
    match decideEqItems left right with
    | isTrue same => isTrue (by rw [same])
    | isFalse different => isFalse (by simpa using different)
  | object left, object right =>
    match decideEqMembers left right with
    | isTrue same => isTrue (by rw [same])
    | isFalse different => isFalse (by simpa using different)
  | null, bool _ | null, number _ | null, string _ | null, array _ | null, object _
  | bool _, null | bool _, number _ | bool _, string _ | bool _, array _ | bool _, object _
  | number _, null | number _, bool _ | number _, string _ | number _, array _
  | number _, object _
  | string _, null | string _, bool _ | string _, number _ | string _, array _
  | string _, object _
  | array _, null | array _, bool _ | array _, number _ | array _, string _ | array _, object _
  | object _, null | object _, bool _ | object _, number _ | object _, string _
  | object _, array _ => isFalse (by simp)

/-- Equality of item lists, item by item, so that arrays can be compared. -/
def decideEqItems : (left right : List Value) → Decidable (left = right)
  | [], [] => isTrue rfl
  | left :: leftRest, right :: rightRest =>
    match decideEq left right, decideEqItems leftRest rightRest with
    | isTrue same, isTrue sameRest => isTrue (by rw [same, sameRest])
    | isFalse different, _ => isFalse (by simp [different])
    | _, isFalse different => isFalse (by simp [different])
  | [], _ :: _ | _ :: _, [] => isFalse (by simp)

/-- Equality of member lists, keys and values, so that objects can be compared. The
order of members counts. -/
def decideEqMembers : (left right : List (String × Value)) → Decidable (left = right)
  | [], [] => isTrue rfl
  | (leftKey, left) :: leftRest, (rightKey, right) :: rightRest =>
    match decEq leftKey rightKey, decideEq left right, decideEqMembers leftRest rightRest with
    | isTrue sameKey, isTrue same, isTrue sameRest => isTrue (by rw [sameKey, same, sameRest])
    | isFalse different, _, _ => isFalse (by simp [different])
    | _, isFalse different, _ => isFalse (by simp [different])
    | _, _, isFalse different => isFalse (by simp [different])
  | [], _ :: _ | _ :: _, [] => isFalse (by simp)

end

instance : DecidableEq Value := decideEq

/-- The value of a whole number that fits 64 bits. It is an integer, never a double.
-/
def ofUInt64 (word : UInt64) : Value := .number (.integer (WideInt.ofUInt64 word))

/-- The value of a whole number that fits 32 bits. It is an integer, never a double.
-/
def ofUInt32 (word : UInt32) : Value := .number (.integer (WideInt.ofUInt32 word))

/-- The value of a double; one that is not finite has no JSON number and is null. So
not every double that is written is read back. -/
def ofBinary64 : Binary64 → Value
  | .finite value => .number (.double value)
  | .infinity _ | .nan => .null

/-- The array of texts, in their order. -/
def ofTexts (texts : List String) : Value := .array (texts.map .string)

/-- The value under a key of an object, and none of a value that is no object. Of
several members of the key it is the first. -/
def member? : Value → String → Option Value
  | .object members, key => Entries.get? members key
  | _, _ => none

/-- The text of a string value. Other values are not turned into text. -/
def text? : Value → Option String
  | .string text => some text
  | _ => none

end Value

end CloudDiagram.Json
