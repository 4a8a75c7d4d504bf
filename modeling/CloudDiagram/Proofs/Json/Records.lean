import CloudDiagram.Json.Record
import CloudDiagram.Proofs.Json.Values

/-!
# Records, lists and whole texts

A record is written as an object. It is read back by the slots of its shape, one member after
another, and is refused if one slot refuses its member or if no bracket may be opened any more.
A list of records is read if each of them is. A whole text is what its reader makes of it.

In the other direction a property that every slot keeps of a draft holds of the draft that is
completed, whichever form the record came in, whatever members it had beside its fields and in
whatever order they stood.
-/

namespace CloudDiagram.Json

section Written

variable {α β σ : Type}

/-- A member of the record is read as the reader of its field reads it and put into
the draft, if that does not hold the field yet. -/
theorem reads_field {shape : Shape σ α} {depth : Nat} {key : String} {draft : σ}
    {held : σ → Option β} {put : σ → β → σ} {reader : Nat → List Char → Reading (β × List Char)}
    {chars : List Char} {result : Option β} {after : Option σ}
    (found : shape.fields.find? (fun field => field.name = key) =
      some (.ofReader key held put reader))
    (empty : held draft = none) (reads : Reads (reader depth) chars result)
    (made : result.map (put draft) = after) :
    Reads (shape.readMember depth key draft) (':' :: chars) after := by
  subst made
  intro rest ends
  have read := reads rest ends
  rw [List.cons_append, Shape.readMember, found]
  cases result <;> simp_all [Slot.ofReader, scanColon_cons, Except.toOption]

/-- A record that is written as an object is read member by member, and completed
from the draft that they make, unless a required field is missing. -/
theorem reads_record {shape : Shape σ α} {depth : Nat} {members : List (String × Value)}
    {result : Option σ} (walk : Walk (shape.readMember depth) shape.blank members result) :
    Reads (shape.read (depth + 1)) (Value.object members).chars
      (result.bind fun draft => (shape.complete draft).toOption) := by
  intro rest _
  have walked := readMembers_parted walk rest
  rw [Value.chars, List.cons_append, List.append_assoc, Value.membersChars_eq,
    List.singleton_append, Shape.read.eq_def, skipSpace_cons (by decide)]
  change (readMembers _ _ _ >>= _).value? = _
  rw [Reading.value?_bind, walked]
  cases result with
  | none => rfl
  | some draft => cases completed : shape.complete draft <;> simp [completed, Except.toOption]

/-- A list whose items are written as values is read item by item, with one bracket
less to open in each. -/
theorem reads_list {item : Nat → List Char → Reading (α × List Char)} {depth : Nat}
    {write : β → Value} {result : β → Option α} {parts : List β}
    (reads : ∀ part ∈ parts, Reads (item depth) (write part).chars (result part)) :
    Reads (readList item (depth + 1)) (Value.array (parts.map write)).chars
      (parts.mapM result) := by
  intro rest _
  have walked := readItems_parted (fun part _ => opens_chars (write part)) reads rest
  rw [Value.chars, List.cons_append, List.append_assoc, Value.itemsChars_eq,
    List.singleton_append, List.map_map, readList.eq_def, skipSpace_cons (by decide)]
  exact walked

/-- A whole text is read as its value is. Nothing stands behind the value, so
nothing can go on with it. -/
theorem value?_readWhole {reader : Nat → List Char → Reading (α × List Char)} {value : Value}
    {result : Option α} (reads : Reads (reader nestingLimit) value.chars result) :
    (readWhole reader value.text).value? = result := by
  have read := reads [] nofun
  rw [List.append_nil] at read
  rw [readWhole, Value.text, String.toList_ofList, Reading.value?_bind, read]
  cases result <;> rfl

/-- A canonical value that nests no deeper than any text may is read again from its
text. -/
theorem Value.value?_ofText_text {value : Value} (within : value.Within nestingLimit) :
    (Value.ofText value.text).value? = some value.reread := by
  have read := reads_value within.canonical nestingLimit
  rw [if_pos within.shallow] at read
  exact value?_readWhole read

end Written

section Yielded

variable {α σ : Type}

/-- Fields that are read in their order keep a property that each of them keeps.
Where the array ends early, the other fields are left as they were. -/
theorem yields_slots {depth : Nat} {invariant : σ → Prop} {fields : List (Slot σ)}
    (each : ∀ field ∈ fields, ∀ draft text, invariant draft →
      Yields (field.read depth draft text) invariant)
    (first : Bool) {draft : σ} (text : List Char) (initial : invariant draft) :
    Yields (Shape.readSlots depth fields first draft text) invariant := by
  induction fields generalizing first draft text with
  | nil =>
    intro final rest read
    rw [Shape.readSlots, Reading.value?_bind] at read
    obtain ⟨after, -, read⟩ := Option.bind_eq_some_iff.mp read
    obtain ⟨rfl, -⟩ : draft = final ∧ after = rest := by simpa using read
    exact initial
  | cons field fields inductionHypothesis =>
    intro final rest read
    rw [Shape.readSlots, Reading.value?_bind] at read
    obtain ⟨step, -, read⟩ := Option.bind_eq_some_iff.mp read
    cases step with
    | done after =>
      obtain ⟨rfl, -⟩ : draft = final ∧ after = rest := by simpa using read
      exact initial
    | more text =>
      simp only [Reading.value?_bind] at read
      obtain ⟨⟨next, text⟩, readField, read⟩ := Option.bind_eq_some_iff.mp read
      have kept := each field List.mem_cons_self _ _ initial _ _ readField
      exact inductionHypothesis (fun field member => each field (.tail _ member)) false text kept
        _ _ read

/-- A member keeps a property of the draft if every field keeps it. One that names
no field is passed over and leaves the draft alone. -/
theorem yields_member {shape : Shape σ α} {depth : Nat} {invariant : σ → Prop}
    (each : ∀ field ∈ shape.fields, ∀ draft text, invariant draft →
      Yields (field.read depth draft text) invariant)
    (key : String) (draft : σ) (text : List Char) (initial : invariant draft) :
    Yields (shape.readMember depth key draft text) invariant := by
  intro final rest read
  rw [Shape.readMember] at read
  split at read
  · rename_i field found
    split at read
    · cases read
    · rw [Reading.value?_bind] at read
      obtain ⟨text, -, read⟩ := Option.bind_eq_some_iff.mp read
      exact each field (List.mem_of_find?_eq_some found) draft text initial final rest read
  · rw [Reading.value?_bind] at read
    obtain ⟨text, -, read⟩ := Option.bind_eq_some_iff.mp read
    rw [Reading.value?_bind] at read
    obtain ⟨after, -, read⟩ := Option.bind_eq_some_iff.mp read
    obtain ⟨rfl, -⟩ : draft = final ∧ after = rest := by simpa using read
    exact initial

/-- What is wanted has a property that everything has that may be picked. -/
theorem yields_scanWanted {wanted : Wanted} {pick : Value → Option α} {property : α → Prop}
    (picks : ∀ value picked, pick value = some picked → property picked) (text : List Char) :
    Yields (.ofExcept (scanWanted wanted pick text)) property := by
  intro found rest read
  rw [Reading.value?_ofExcept, scanWanted.eq_def] at read
  split at read
  · cases read
  · cases read
  · cases read
  · cases scanned : scanScalar (skipSpace text) with
    | error fault => simp [scanned, Except.toOption, bind, Except.bind] at read
    | ok scalar =>
      obtain ⟨value, after⟩ := scalar
      cases picked : pick value with
      | none =>
        simp [scanned, picked, Except.toOption, bind, Except.bind, throw, throwThe,
          MonadExceptOf.throw] at read
      | some other =>
        obtain ⟨rfl, -⟩ : other = found ∧ after = rest := by
          simpa [scanned, picked, Except.toOption, bind, Except.bind, pure, Except.pure] using read
        exact picks value other picked

/-- A field that is read with a property keeps what putting it into a draft keeps.
-/
theorem yields_ofReader {name : String} {held : σ → Option α} {put : σ → α → σ}
    {reader : Nat → List Char → Reading (α × List Char)} {depth : Nat} {property : α → Prop}
    {invariant : σ → Prop} (reads : ∀ text, Yields (reader depth text) property)
    (keeps : ∀ draft value, invariant draft → property value → invariant (put draft value))
    (draft : σ) (text : List Char) (initial : invariant draft) :
    Yields ((Slot.ofReader name held put reader).read depth draft text) invariant :=
  (reads text).map fun value => keeps draft value initial

/-- A record that is completed from a draft has what every complete draft with the
property of the draft gives. -/
theorem yields_completed {shape : Shape σ α} {invariant : σ → Prop} {property : α → Prop}
    (complete : ∀ draft record, invariant draft → shape.complete draft = .ok record →
      property record) {reading : Reading (σ × List Char)} (yields : Yields reading invariant)
    (fault : List Char → Nat → Fault) :
    Yields (reading >>= fun (draft, rest) =>
      match shape.complete draft with
      | .ok record => pure (record, rest)
      | .error position => .fault (fault rest position)) property := by
  intro record rest read
  rw [Reading.value?_bind] at read
  obtain ⟨⟨draft, after⟩, readDraft, read⟩ := Option.bind_eq_some_iff.mp read
  have held := yields draft after readDraft
  cases made : shape.complete draft with
  | error position => simp [made] at read
  | ok other =>
    obtain ⟨rfl, -⟩ : other = record ∧ after = rest := by simpa [made] using read
    exact complete draft other held made

/-- A record has what every complete draft with a property gives, if every field
keeps that property of the draft. Both forms of a record are covered, the array and
the object. -/
theorem yields_record {shape : Shape σ α} {depth : Nat} {invariant : σ → Prop}
    {property : α → Prop} (blank : invariant shape.blank)
    (each : ∀ field ∈ shape.fields, ∀ draft text, invariant draft →
      Yields (field.read depth draft text) invariant)
    (complete : ∀ draft record, invariant draft → shape.complete draft = .ok record →
      property record) (text : List Char) :
    Yields (shape.read (depth + 1) text) property := by
  rw [Shape.read.eq_def]
  split
  · contradiction
  · contradiction
  · rename_i same _
    obtain rfl := Nat.succ.inj same
    exact yields_completed complete (yields_slots each true _ blank) fun rest position =>
      .before (.wrongLength position shape.title shape.fields.length) rest
  · rename_i same _
    obtain rfl := Nat.succ.inj same
    exact yields_completed complete (yields_members (yields_member each) _ true _ blank)
      fun rest position => .before (.missingField (shape.fieldName position)) rest
  · exact yields_scanWanted nofun _

/-- A list of what was read with a property has it for each item, however many there
are. -/
theorem yields_list {item : Nat → List Char → Reading (α × List Char)} {depth : Nat}
    {property : α → Prop} (each : ∀ text, Yields (item depth text) property) (text : List Char) :
    Yields (readList item (depth + 1) text) fun items => ∀ value ∈ items, property value := by
  rw [readList.eq_def]
  split
  · contradiction
  · rename_i same _
    obtain rfl := Nat.succ.inj same
    exact yields_items each _ true _
  · exact yields_scanWanted nofun _

/-- What a whole text is read as has the property of what its reader reads. The
space behind it is passed, and nothing else may stand there. -/
theorem yields_whole {reader : Nat → List Char → Reading (α × List Char)} {property : α → Prop}
    (each : ∀ text, Yields (reader nestingLimit text) property) {text : String} {value : α}
    (read : (readWhole reader text).value? = some value) : property value := by
  rw [readWhole, Reading.value?_bind] at read
  obtain ⟨⟨held, rest⟩, readHeld, read⟩ := Option.bind_eq_some_iff.mp read
  cases behind : skipSpace rest with
  | nil =>
    obtain rfl : held = value := by simpa [behind] using read
    exact each _ held rest readHeld
  | cons c trailing => simp [behind] at read

/-- The value of a text is canonical and nests no deeper than any text may, so it is
read back when it is written. -/
theorem Value.within_of_ofText {text : String} {value : Value}
    (read : (Value.ofText text).value? = some value) : value.Within nestingLimit :=
  yields_whole (yields_value nestingLimit) read

end Yielded

end CloudDiagram.Json
