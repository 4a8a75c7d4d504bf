import CloudDiagram.Json.Reader
import CloudDiagram.Json.Skip

/-!
# Reading records

A record is written as an object with its fields as members, or as an array of
its fields in their order. Members that the record does not know are passed over.
Fields are read into a draft, and a draft is completed into the record when the
closing bracket has been read: only then is a missing field noticed. A field that
stands twice is noticed at its second key.
-/

namespace CloudDiagram.Json

/-- Where a record holds a field: its name, whether a draft has it, and how it is
read into a draft with a number of brackets that may still be opened. -/
structure Slot (σ : Type) where
  name : String
  filled : σ → Bool
  read : Nat → σ → List Char → Reading (σ × List Char)

namespace Slot

variable {σ α : Type}

/-- A field whose draft holds nothing before it is read. All fields of the records
here are of this sort, so a field is filled exactly if it was read. -/
def ofReader (name : String) (held : σ → Option α) (put : σ → α → σ)
    (reader : Nat → List Char → Reading (α × List Char)) : Slot σ where
  name := name
  filled draft := (held draft).isSome
  read depth draft text := do
    let (value, text) ← reader depth text
    return (put draft value, text)

end Slot

/-- A record that is read through drafts. Completing a draft gives the record, or
the position of the first required field that is missing. -/
structure Shape (σ α : Type) where
  title : String
  fields : List (Slot σ)
  blank : σ
  complete : σ → Except Nat α

namespace Shape

variable {σ α : Type}

/-- The name of the field at a position. It is asked for the fields of the record
only, so the empty name is never shown. -/
def fieldName (shape : Shape σ α) (position : Nat) : String :=
  (shape.fields[position]?).elim "" Slot.name

/-- The end of an array all of whose fields have been read. Anything but the closing
bracket is a fault, as there is no field for it. -/
def scanEnd (text : List Char) : Except Fault (List Char) :=
  match skipSpace text with
  | [] => .error (.before .unfinishedList [])
  | ']' :: rest => .ok rest
  | ',' :: rest =>
    match skipSpace rest with
    | ']' :: rest => .error (.onNext .trailingComma (']' :: rest))
    | rest => .error (.onNext .trailingText rest)
  | rest => .error (.onNext .trailingText rest)

/-- Fields in their order, until the array ends or all have been read. An array may
be too short, if the fields that are left out are not required. -/
def readSlots (depth : Nat) : List (Slot σ) → Bool → σ → List Char → Reading (σ × List Char)
  | [], _, draft, text => do
    let rest ← .ofExcept (scanEnd text)
    return (draft, rest)
  | field :: fields, first, draft, text => do
    match ← .ofExcept (nextItem first text) with
    | .done rest => return (draft, rest)
    | .more text =>
      let (draft, text) ← field.read depth draft text
      readSlots depth fields false draft text

/-- Where a repeated key is reported: after a closing bracket that follows it, if
one does, and after the space behind it in any case. -/
def afterRepeated (text : List Char) : List Char :=
  match skipSpace text with
  | '}' :: rest => rest
  | rest => rest

/-- A member, from behind its key. A known one is read into the draft, and one that
the record does not know is passed over without being read. -/
def readMember (shape : Shape σ α) (depth : Nat) (key : String) (draft : σ) (text : List Char) :
    Reading (σ × List Char) :=
  match shape.fields.find? fun field => field.name = key with
  | some field =>
    if field.filled draft then .fault (.before (.repeatedField key) (afterRepeated text))
    else do
      let text ← .ofExcept (scanColon text)
      field.read depth draft text
  | none => do
    let text ← .ofExcept (scanColon text)
    let text ← .ofExcept (skipValue text)
    return (draft, text)

/-- A record in either form. The title is only named in faults, and the nesting is
counted like that of any value. -/
def read (shape : Shape σ α) (depth : Nat) (text : List Char) : Reading (α × List Char) :=
  match depth, skipSpace text with
  | 0, '[' :: rest => .fault (.onNext .tooDeep ('[' :: rest))
  | 0, '{' :: rest => .fault (.onNext .tooDeep ('{' :: rest))
  | depth + 1, '[' :: rest => do
    let (draft, rest) ← readSlots depth shape.fields true shape.blank rest
    match shape.complete draft with
    | .ok record => return (record, rest)
    | .error position =>
      .fault (.before (.wrongLength position shape.title shape.fields.length) rest)
  | depth + 1, '{' :: rest => do
    let (draft, rest) ← readMembers (shape.readMember depth) shape.blank rest
    match shape.complete draft with
    | .ok record => return (record, rest)
    | .error position => .fault (.before (.missingField (shape.fieldName position)) rest)
  | _, text => .ofExcept (scanWanted (.record shape.title) (fun _ => none) text)

end Shape

end CloudDiagram.Json
