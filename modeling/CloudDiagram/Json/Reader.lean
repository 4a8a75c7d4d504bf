import CloudDiagram.Json.Token
import CloudDiagram.Json.Reading

/-!
# Reading JSON text

A reader takes the unread text and gives a reading of what it read with the text
after it. Arrays and objects are walked by one loop each, whatever their parts
are read as. A reader of nested values is given how many brackets may still be
opened, so it recurs on that number; the loops are bounded by the length of the
text they start from, since each turn takes a character at least.
-/

namespace CloudDiagram.Json

/-- How many arrays and objects may be nested. One bracket more is a fault, also
where all of them are closed again. -/
def nestingLimit : Nat := 127

/-- What follows inside an array or object: one more part, whose text is given, or
the end, with the text after the closing bracket. -/
inductive Step where
  | more (text : List Char)
  | done (rest : List Char)
deriving DecidableEq, Repr

/-- What follows inside an array, before its first item or after an item. Only
before the first item there is no comma, and behind a comma there has to be an item.
-/
def nextItem (first : Bool) (text : List Char) : Except Fault Step :=
  match skipSpace text with
  | [] => .error (.before .unfinishedList [])
  | c :: rest =>
    if c = ']' then .ok (.done rest)
    else if first then .ok (.more (c :: rest))
    else if c = ',' then
      match skipSpace rest with
      | [] => .error (.before .unfinishedValue [])
      | ']' :: rest => .error (.onNext .trailingComma (']' :: rest))
      | text => .ok (.more text)
    else .error (.onNext .noListMark (c :: rest))

/-- What follows inside an object, before its first member or after a member. The
text of a member is given from behind the opening quote of its key. -/
def nextKey (first : Bool) (text : List Char) : Except Fault Step :=
  match skipSpace text with
  | [] => .error (.before .unfinishedObject [])
  | c :: rest =>
    if c = '}' then .ok (.done rest)
    else if first then
      if c = '"' then .ok (.more rest) else .error (.onNext .keyNotText (c :: rest))
    else if c = ',' then
      match skipSpace rest with
      | [] => .error (.before .unfinishedValue [])
      | '"' :: rest => .ok (.more rest)
      | '}' :: rest => .error (.onNext .trailingComma ('}' :: rest))
      | text => .error (.onNext .keyNotText text)
    else .error (.onNext .noObjectMark (c :: rest))

/-- The text after the colon that follows a key. A text that ends here ends inside
the object. -/
def scanColon (text : List Char) : Except Fault (List Char) :=
  match skipSpace text with
  | [] => .error (.before .unfinishedObject [])
  | ':' :: rest => .ok rest
  | rest => .error (.onNext .noColon rest)

section Walks

variable {α σ : Type}

/-- The items of an array, from its first item or from after an item. The number
bounds the turns of the loop and is never used up, as each turn takes a character at
least. -/
def readItemsFrom (item : List Char → Reading (α × List Char)) :
    Nat → Bool → List Char → Reading (List α × List Char)
  | 0, _, _ => .fault (.before .unfinishedList [])
  | bound + 1, first, text => do
    match ← .ofExcept (nextItem first text) with
    | .done rest => return ([], rest)
    | .more text =>
      let (head, text) ← item text
      let (tail, text) ← readItemsFrom item bound false text
      return (head :: tail, text)

/-- The items of an array, from behind its opening bracket, with one turn more than
there are characters. -/
def readItems (item : List Char → Reading (α × List Char)) (text : List Char) :
    Reading (List α × List Char) :=
  readItemsFrom item (text.length + 1) true text

/-- The members of an object, from its first member or from after a member. Each
member is read, from behind its key, into the state that the ones before it left. -/
def readMembersFrom (member : String → σ → List Char → Reading (σ × List Char)) :
    Nat → Bool → σ → List Char → Reading (σ × List Char)
  | 0, _, _, _ => .fault (.before .unfinishedObject [])
  | bound + 1, first, state, text => do
    match ← .ofExcept (nextKey first text) with
    | .done rest => return (state, rest)
    | .more text =>
      let (key, text) ← .ofExcept (scanString text)
      let (state, text) ← member key state text
      readMembersFrom member bound false state text

/-- The members of an object, from behind its opening bracket. What is made of the
members is up to the state, a draft of a record or the members of a value. -/
def readMembers (member : String → σ → List Char → Reading (σ × List Char)) (state : σ)
    (text : List Char) : Reading (σ × List Char) :=
  readMembersFrom member (text.length + 1) true state text

end Walks

/-- Any value, with at most `depth` brackets open at a time. Members are kept in key
order, and of two members of one key the later one stays. -/
def readValue (depth : Nat) (text : List Char) : Reading (Value × List Char) :=
  match depth, skipSpace text with
  | 0, '[' :: rest => .fault (.onNext .tooDeep ('[' :: rest))
  | 0, '{' :: rest => .fault (.onNext .tooDeep ('{' :: rest))
  | depth + 1, '[' :: rest => do
    let (items, rest) ← readItems (readValue depth) rest
    return (.array items, rest)
  | depth + 1, '{' :: rest => do
    let member (key : String) (members : List (String × Value)) (text : List Char) :
        Reading (List (String × Value) × List Char) := do
      let text ← .ofExcept (scanColon text)
      let (value, text) ← readValue depth text
      return (Entries.insert key value members, text)
    let (members, rest) ← readMembers member [] rest
    return (.object members, rest)
  | _, text => .ofExcept (scanScalar text)

/-- An array whose items are read at one level deeper. A value that is no array is a
fault, and is read to its end first if it has no parts. -/
def readList {α : Type} (item : Nat → List Char → Reading (α × List Char)) (depth : Nat)
    (text : List Char) : Reading (List α × List Char) :=
  match depth, skipSpace text with
  | 0, '[' :: rest => .fault (.onNext .tooDeep ('[' :: rest))
  | depth + 1, '[' :: rest => readItems (item depth) rest
  | _, text => .ofExcept (scanWanted .list (fun _ => none) text)

/-- A whole text: nothing but space follows what the reader reads. What follows is
looked at only after the reader is done, so a fault of the reader comes first. -/
def readWhole {α : Type} (reader : Nat → List Char → Reading (α × List Char)) (text : String) :
    Reading α := do
  let (value, rest) ← reader nestingLimit text.toList
  match skipSpace rest with
  | [] => return value
  | rest => .fault (.onNext .trailingText rest)

/-- The value of a text, with the ids met in it, of which there are none. -/
def Value.ofText (text : String) : Reading Value := readWhole readValue text

end CloudDiagram.Json
