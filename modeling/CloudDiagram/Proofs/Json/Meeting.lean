import CloudDiagram.Proofs.Json.Forward
import CloudDiagram.Proofs.Json.Records

/-!
# Where ids are met

A reading meets ids, and it is told here which these are. If it succeeds, they are the ids of what
was read, no fewer and no others. If it fails, each of them stands in the text where an id is due,
and the fault lies behind it.

Where an id is due follows from how a text is walked over. An item of an array begins behind its
bracket or behind a comma, once the items before it have been read; likewise a member of an
object. The value of a field begins behind the key of the field and its colon, or, in a record that
is written as an array, where its turn comes. So an id of a list of nodes, say, stands where the
field `id` of a node begins that begins where an item of the list does.
-/

namespace CloudDiagram.Json

/-- How a text shows ids: with some brackets that may still be opened, a text shows
an id in front of the rest of the text. -/
abbrev Showing := Nat → List Char → String → List Char → Prop

namespace Reading

variable {α β : Type}

/-- The outcome of a run is that of its last part, or the first fault. The ids it
has met do not change it. -/
theorem outcome_bind (first : Reading α) (next : α → Reading β) :
    (first >>= next).outcome = first.outcome >>= fun value => (next value).outcome := by
  cases read : first.outcome with
  | ok value => rw [bind_of_ok read]; rfl
  | error fault => rw [bind_of_error read]; rfl

/-- A run meets what its first part meets, and if that succeeds what is met next. A
fault takes back none of the ids met before it. -/
theorem mem_seen_bind {first : Reading α} {next : α → Reading β} {id : String} :
    id ∈ (first >>= next).seen ↔
      id ∈ first.seen ∨ ∃ value, first.outcome = .ok value ∧ id ∈ (next value).seen := by
  cases read : first.outcome with
  | ok value => simp [bind_of_ok read]
  | error fault => simp [bind_of_error read]

/-- A reading of a text goes forward. Where it meets an id, the text shows the id, and reading goes
on behind it. After success the ids of what was read are those met before and those met by the
reading. -/
structure Meets (reading : Reading (α × List Char)) (text : List Char) (before : List String)
    (ids : α → List String) (shows : String → List Char → Prop) : Prop where
  forward : Forward Prod.snd text reading.outcome
  shown : ∀ id ∈ reading.seen, ∃ behind, shows id behind ∧ behind <:+ text ∧
    Forward Prod.snd behind reading.outcome
  exact : ∀ value rest, reading.outcome = .ok (value, rest) →
    ∀ id, id ∈ ids value ↔ id ∈ before ∨ id ∈ reading.seen

namespace Meets

variable {text rest : List Char} {before : List String} {ids : α → List String}
  {ids' : β → List String} {shows : String → List Char → Prop}

/-- A fault meets nothing, wherever in the text it is found. -/
theorem fault {fault : Fault} (forward : fault.unread <:+ text) :
    (Reading.fault fault : Reading (α × List Char)).Meets text before ids shows where
  forward := forward
  shown := nofun
  exact := nofun

/-- A scan that fails in any case meets nothing, as nothing is ever given by it. -/
theorem refused {outcome : Except Fault (α × List Char)} (forward : Forward Prod.snd text outcome)
    (fails : ∀ value, outcome ≠ .ok value) :
    (Reading.ofExcept outcome).Meets text before ids shows where
  forward := forward
  shown := nofun
  exact _ _ read := absurd read (fails _)

/-- A scan meets nothing, so what was scanned has the ids met before. -/
theorem ofExcept {outcome : Except Fault (α × List Char)} (forward : Forward Prod.snd text outcome)
    (same : ∀ value id, id ∈ ids value ↔ id ∈ before) :
    (Reading.ofExcept outcome).Meets text before ids shows where
  forward := forward
  shown := nofun
  exact value _ _ id := by simp [Reading.ofExcept, same]

/-- What is given at once has the ids met before. -/
theorem pure {value : α} (same : ∀ id, id ∈ ids value ↔ id ∈ before) :
    (Pure.pure (value, rest) : Reading (α × List Char)).Meets rest before ids shows where
  forward := List.suffix_rfl
  shown := nofun
  exact other _ read id := by
    obtain ⟨rfl, -⟩ := Prod.mk.inj (Except.ok.inj read)
    simp [same]

/-- What a text shows, a text may show in other ways too. It lets the parts of a
record be told apart first and joined later. -/
theorem mono {shows' : String → List Char → Prop} {reading : Reading (α × List Char)}
    (meets : reading.Meets text before ids shows)
    (also : ∀ id behind, shows id behind → shows' id behind) :
    reading.Meets text before ids shows' where
  forward := meets.forward
  shown id met := by
    obtain ⟨behind, shown, further⟩ := meets.shown id met
    exact ⟨behind, also id behind shown, further⟩
  exact := meets.exact

/-- What stands in front of a text is passed by whoever reads it, so an id that the
rest shows is shown by the whole. -/
theorem behind {reading : Reading (α × List Char)} (meets : reading.Meets rest before ids shows)
    (shorter : rest <:+ text) : reading.Meets text before ids shows where
  forward := meets.forward.trans shorter
  shown id met := by
    obtain ⟨behind, shown, inside, forward⟩ := meets.shown id met
    exact ⟨behind, shown, inside.trans shorter, forward⟩
  exact := meets.exact

/-- A reading may come after others that met more ids. They are added on both sides.
-/
theorem after (more : List String) {reading : Reading (α × List Char)}
    (meets : reading.Meets text before ids shows) :
    reading.Meets text (more ++ before) (fun value => more ++ ids value) shows where
  forward := meets.forward
  shown := meets.shown
  exact value rest read id := by
    simp only [List.mem_append, meets.exact value rest read id, or_assoc]

/-- A scan in front of a reading meets nothing. If it fails, the reading behind it
is not made and no id is met at all. -/
theorem scan {left : β → List Char} {outcome : Except Fault β}
    {next : β → Reading (α × List Char)} (forward : Forward left text outcome)
    (others : ∀ value, outcome = .ok value → (next value).Meets (left value) before ids shows) :
    (Reading.ofExcept outcome >>= next).Meets text before ids shows := by
  cases outcome with
  | error fault => exact Meets.fault forward
  | ok value =>
    have read : (Reading.ofExcept (.ok value) : Reading β).outcome = .ok value := rfl
    rw [bind_of_ok read]
    exact (others value rfl).behind forward

/-- Two readings, one behind the other, meet the ids of both. An id that the second
one meets stands behind what the first one has read, and the first one's ids stay
met if the second one fails. -/
theorem bind {first : Reading (α × List Char)} {next : α × List Char → Reading (β × List Char)}
    (meets : first.Meets text before ids shows)
    (others : ∀ value rest, first.outcome = .ok (value, rest) →
      (next (value, rest)).Meets rest (ids value) ids' shows) :
    (first >>= next).Meets text before ids' shows where
  forward := by
    rw [outcome_bind]
    exact meets.forward.bind fun found read => (others found.1 found.2 read).forward
  shown id met := by
    rcases mem_seen_bind.mp met with met | ⟨⟨value, rest⟩, read, met⟩
    · obtain ⟨behind, shown, inside, forward⟩ := meets.shown id met
      refine ⟨behind, shown, inside, ?_⟩
      rw [outcome_bind]
      exact forward.bind fun found read => (others found.1 found.2 read).forward
    · rw [bind_of_ok read]
      have passed : rest <:+ text := by simpa [read] using meets.forward
      exact ((others value rest read).behind passed).shown id met
  exact final rest read id := by
    rw [outcome_bind] at read
    cases taken : first.outcome with
    | error fault => simp [taken, Bind.bind, Except.bind] at read
    | ok pair =>
      obtain ⟨value, behind⟩ := pair
      rw [taken] at read
      have ofFirst := meets.exact value behind taken id
      have ofNext := (others value behind taken).exact final rest read id
      rw [ofNext, ofFirst, bind_of_ok taken, List.mem_append, or_assoc]

end Meets

end Reading

section Arrays

variable {α : Type}

/-- An item of an array begins at a place, for an array from its first item or from
after an item. To come to a later item, all items before it have to be read. -/
inductive ItemAt (item : List Char → Reading (α × List Char)) :
    Bool → List Char → List Char → Prop where
  | here {first : Bool} {text place : List Char} (next : nextItem first text = .ok (.more place)) :
    ItemAt item first text place
  | later {first : Bool} {text start rest place : List Char} {value : α}
      (next : nextItem first text = .ok (.more start))
      (read : (item start).outcome = .ok (value, rest)) (others : ItemAt item false rest place) :
    ItemAt item first text place

/-- Items that show ids show them in an array, where it may be opened. No bracket
may be opened when none is left. -/
def showsInList (item : Nat → List Char → Reading (α × List Char)) (shows : Showing) : Showing
  | 0, _, _, _ => False
  | depth + 1, text, id, behind => ∃ rest place, skipSpace text = '[' :: rest ∧
      ItemAt (item depth) true rest place ∧ shows depth place id behind

/-- The items of an array meet the ids of all items. If one fails, those before it
have met theirs, and each of these stands where its item begins. -/
theorem meets_itemsFrom {item : List Char → Reading (α × List Char)} {ids : α → List String}
    {shows : List Char → String → List Char → Prop}
    (each : ∀ text, (item text).Meets text [] ids (shows text)) (bound : Nat) (first : Bool)
    (text : List Char) :
    (readItemsFrom item bound first text).Meets text [] (List.flatMap ids) fun id behind =>
      ∃ place, ItemAt item first text place ∧ shows place id behind := by
  induction bound generalizing first text with
  | zero => exact .fault List.nil_suffix
  | succ bound inductionHypothesis =>
    rw [readItemsFrom]
    refine .scan (forward_nextItem first text) fun step next => ?_
    cases step with
    | done rest => exact .pure fun _ => Iff.rfl
    | more start =>
      refine .bind ((each start).mono fun id behind shown => ⟨start, .here next, shown⟩)
        fun value rest read => ?_
      have tail := (inductionHypothesis false rest).after (ids value)
      rw [List.append_nil] at tail
      refine .bind (tail.mono ?_) fun values rest _ => .pure fun _ => by rw [List.flatMap_cons]
      rintro id behind ⟨place, found, shown⟩
      exact ⟨place, .later next read found, shown⟩

/-- A scan that picks nothing fails, whatever value it comes upon. -/
theorem scanWanted_none (wanted : Wanted) (text : List Char) (found : α × List Char) :
    scanWanted wanted (fun _ => none) text ≠ .ok found := by
  have never : Yields (.ofExcept (scanWanted wanted (fun _ => none) text)) fun _ : α => False :=
    yields_scanWanted nofun text
  intro read
  exact never found.1 found.2 (Reading.value?_eq_some_iff.mpr read)

/-- A list meets the ids of its items, if its bracket may be opened. Otherwise it
meets none. -/
theorem meets_list {item : Nat → List Char → Reading (α × List Char)} {ids : α → List String}
    {shows : Showing} (each : ∀ depth text, (item depth text).Meets text [] ids (shows depth text))
    (depth : Nat) (text : List Char) :
    (readList item depth text).Meets text [] (List.flatMap ids)
      (showsInList item shows depth text) := by
  fun_cases readList item depth text with
  | case1 rest next => exact .fault (suffix_of_skipSpace next)
  | case2 depth rest next =>
    have items := meets_itemsFrom (each depth) (rest.length + 1) true rest
    refine (items.behind (suffix_of_skipSpace_cons next)).mono ?_
    rintro id behind ⟨place, found, shown⟩
    exact ⟨rest, place, next, found, shown⟩
  | case3 =>
    refine .refused ?_ (scanWanted_none _ _)
    exact (forward_scanWanted ..).trans (suffix_of_skipSpace rfl)

end Arrays

section Objects

variable {σ : Type}

/-- A member of an object has a key and a place behind the key, for an object from
its first member or from after a member, with the state that the members before have
left. -/
inductive MemberAt (member : String → σ → List Char → Reading (σ × List Char)) :
    Bool → σ → List Char → String → List Char → Prop where
  | here {first : Bool} {state : σ} {text start place : List Char} {key : String}
      (next : nextKey first text = .ok (.more start))
      (named : scanString start = .ok (key, place)) :
    MemberAt member first state text key place
  | later {first : Bool} {state after : σ} {text start behind rest place : List Char}
      {key other : String} (next : nextKey first text = .ok (.more start))
      (named : scanString start = .ok (other, behind))
      (read : (member other state behind).outcome = .ok (after, rest))
      (others : MemberAt member false after rest key place) :
    MemberAt member first state text key place

/-- The members of an object meet the ids of all members, one after another. Each
adds its ids to those that the state has already. -/
theorem meets_membersFrom {member : String → σ → List Char → Reading (σ × List Char)}
    {ids : σ → List String} {shows : String → List Char → String → List Char → Prop}
    (each : ∀ key state text, (member key state text).Meets text (ids state) ids (shows key text))
    (bound : Nat) (first : Bool) (state : σ) (text : List Char) :
    (readMembersFrom member bound first state text).Meets text (ids state) ids fun id behind =>
      ∃ key place, MemberAt member first state text key place ∧ shows key place id behind := by
  induction bound generalizing first state text with
  | zero => exact .fault List.nil_suffix
  | succ bound inductionHypothesis =>
    rw [readMembersFrom]
    refine .scan (forward_nextKey first text) fun step next => ?_
    cases step with
    | done rest => exact .pure fun _ => Iff.rfl
    | more start =>
      refine .scan (forward_scanString start) ?_
      rintro ⟨key, place⟩ named
      refine .bind ((each key state place).mono fun id behind shown =>
        ⟨key, place, .here next named, shown⟩) fun after rest read => ?_
      refine (inductionHypothesis false after rest).mono ?_
      rintro id behind ⟨other, place, found, shown⟩
      exact ⟨other, place, .later next named read found, shown⟩

end Objects

/-- A value is read without meeting an id, whatever it holds: what looks like an id
inside a payload is none. The induction is over the brackets that may still be
opened. -/
theorem meets_value (depth : Nat) (text : List Char) :
    (readValue depth text).Meets text [] (fun _ => []) fun _ _ => False := by
  induction depth using Nat.strongRecOn generalizing text with
  | ind depth inductionHypothesis =>
    fun_cases readValue depth text with
    | case1 rest next => exact .fault (suffix_of_skipSpace next)
    | case2 rest next => exact .fault (suffix_of_skipSpace next)
    | case3 depth rest next =>
      have items := meets_itemsFrom (inductionHypothesis depth (Nat.lt_succ_self depth))
        (rest.length + 1) true rest
      have unseen := items.mono fun _ _ shown => shown.elim fun _ never => never.2
      refine .behind (.bind unseen fun values rest _ => ?_) (suffix_of_skipSpace_cons next)
      exact .pure fun id => by simp
    | case4 depth rest next =>
      have entry (key : String) (members : List (String × Value)) (text : List Char) :
          (readEntry depth key members text).Meets text [] (fun _ => []) fun _ _ => False := by
        refine .scan (forward_scanColon text) fun text _ => ?_
        exact .bind (inductionHypothesis depth (Nat.lt_succ_self depth) text)
          fun value rest _ => .pure fun _ => Iff.rfl
      have members := meets_membersFrom entry (rest.length + 1) true [] rest
      have unseen := members.mono fun _ _ shown =>
        shown.elim fun _ shown => shown.elim fun _ never => never.2
      refine .behind (.bind unseen fun values rest _ => ?_) (suffix_of_skipSpace_cons next)
      exact .pure fun _ => Iff.rfl
    | case5 =>
      exact .ofExcept ((forward_scanScalar _).trans (suffix_of_skipSpace rfl)) fun _ _ => Iff.rfl

section Records

variable {σ α : Type}

/-- A field of a record that is written as an array has its turn at a place, for the fields that
are still to come and the draft that those before have left. -/
inductive SlotAt (depth : Nat) :
    List (Slot σ) → Bool → σ → List Char → String → List Char → Prop where
  | here {field : Slot σ} {fields : List (Slot σ)} {first : Bool} {draft : σ}
      {text place : List Char} (next : nextItem first text = .ok (.more place)) :
    SlotAt depth (field :: fields) first draft text field.name place
  | later {field : Slot σ} {fields : List (Slot σ)} {first : Bool} {draft after : σ}
      {text start rest place : List Char} {name : String}
      (next : nextItem first text = .ok (.more start))
      (read : (field.read depth draft start).outcome = .ok (after, rest))
      (others : SlotAt depth fields false after rest name place) :
    SlotAt depth (field :: fields) first draft text name place

/-- The value of a field begins at a place in a record, with some brackets that may still be opened
inside the record. -/
inductive FieldAt (shape : Shape σ α) (depth : Nat) (text : List Char) (name : String)
    (place : List Char) : Prop where
  | slot {rest : List Char} (opens : skipSpace text = '[' :: rest)
      (found : SlotAt depth shape.fields true shape.blank rest name place)
  | member {rest behind : List Char} (opens : skipSpace text = '{' :: rest)
      (found : MemberAt (shape.readMember depth) true shape.blank rest name behind)
      (colon : scanColon behind = .ok place)

/-- Fields that show ids show them in a record, where its bracket may be opened. The
others show none. -/
def Shape.shows (shape : Shape σ α) (fields : List (String × Showing)) : Showing
  | 0, _, _, _ => False
  | depth + 1, text, id, behind => ∃ name showing place, (name, showing) ∈ fields ∧
      FieldAt shape depth text name place ∧ showing depth place id behind

/-- A record without fields that show ids shows none. A position is such a record.
-/
theorem Shape.not_shows_nil {shape : Shape σ α} {depth : Nat} {text behind : List Char}
    {id : String} : ¬ shape.shows [] depth text id behind := by
  cases depth with
  | zero => exact fun never => never
  | succ depth =>
    rintro ⟨name, showing, place, listed, -⟩
    exact List.not_mem_nil listed

/-- A field adds the ids that it meets to those of a draft that does not hold it yet. Where it
stands, it shows ids if it is among the fields that do. -/
def Slot.MeetsIds (field : Slot σ) (held : σ → List String) (fields : List (String × Showing)) :
    Prop :=
  ∀ depth draft text, field.filled draft = false →
    (field.read depth draft text).Meets text (held draft) held fun id behind =>
      ∃ showing, (field.name, showing) ∈ fields ∧ showing depth text id behind

/-- A field leaves it to another one whether a draft holds that. Fields that are
read in their order rely on it, since each must find its own place empty. -/
def Slot.Leaves (field other : Slot σ) : Prop :=
  ∀ depth draft text after rest, (field.read depth draft text).outcome = .ok (after, rest) →
    other.filled after = other.filled draft

/-- How the fields of a record meet ids. A draft has the ids of the fields that it holds, and a
record those of the draft that it was completed from. -/
structure Shape.MeetsIds (shape : Shape σ α) (held : σ → List String) (ids : α → List String)
    (fields : List (String × Showing)) : Prop where
  blank : held shape.blank = []
  unfilled : ∀ field ∈ shape.fields, field.filled shape.blank = false
  each : ∀ field ∈ shape.fields, field.MeetsIds held fields
  apart : shape.fields.Pairwise Slot.Leaves
  complete : ∀ draft record, shape.complete draft = .ok record → ids record = held draft

/-- Fields in their order meet the ids of all of them. The first one finds its place
in the draft empty, and it leaves those of the others empty. -/
theorem meets_slots {slots : List (Slot σ)} {held : σ → List String}
    {fields : List (String × Showing)} (each : ∀ field ∈ slots, field.MeetsIds held fields)
    (apart : slots.Pairwise Slot.Leaves) (depth : Nat) (first : Bool) {draft : σ}
    (unfilled : ∀ field ∈ slots, field.filled draft = false) (text : List Char) :
    (Shape.readSlots depth slots first draft text).Meets text (held draft) held fun id behind =>
      ∃ name showing place, (name, showing) ∈ fields ∧
        SlotAt depth slots first draft text name place ∧ showing depth place id behind := by
  induction slots generalizing first draft text with
  | nil =>
    rw [Shape.readSlots]
    exact .scan (forward_scanEnd text) fun rest _ => .pure fun _ => Iff.rfl
  | cons field slots inductionHypothesis =>
    obtain ⟨leaves, others⟩ := List.pairwise_cons.mp apart
    rw [Shape.readSlots]
    refine .scan (forward_nextItem first text) fun step next => ?_
    cases step with
    | done rest => exact .pure fun _ => Iff.rfl
    | more start =>
      have head := each field List.mem_cons_self depth draft start
        (unfilled field List.mem_cons_self)
      refine .bind (head.mono ?_) fun after rest read => ?_
      · rintro id behind ⟨showing, listed, shown⟩
        exact ⟨field.name, showing, start, listed, .here next, shown⟩
      · have stillUnfilled : ∀ other ∈ slots, other.filled after = false := fun other member =>
          (leaves other member depth draft start after rest read).trans
            (unfilled other (.tail _ member))
        have tail := inductionHypothesis (fun other member => each other (.tail _ member)) others
          false stillUnfilled rest
        refine tail.mono ?_
        rintro id behind ⟨name, showing, place, listed, found, shown⟩
        exact ⟨name, showing, place, listed, .later next read found, shown⟩

section MeetsIds

variable {shape : Shape σ α} {held : σ → List String} {ids : α → List String}
  {fields : List (String × Showing)}

/-- A member meets the ids of the field that it names, and nothing if it names none.
A field that is named a second time is refused before its value is read. -/
theorem Shape.MeetsIds.member (meets : shape.MeetsIds held ids fields) (depth : Nat) (key : String)
    (draft : σ) (text : List Char) :
    (shape.readMember depth key draft text).Meets text (held draft) held fun id behind =>
      ∃ showing place, scanColon text = .ok place ∧ (key, showing) ∈ fields ∧
        showing depth place id behind := by
  fun_cases shape.readMember depth key draft text with
  | case1 field found filled => exact .fault (afterRepeated_suffix text)
  | case2 field found unfilled =>
    obtain rfl : field.name = key := by simpa using List.find?_some found
    refine .scan (forward_scanColon text) fun place colon => ?_
    have reads := meets.each field (List.mem_of_find?_eq_some found) depth draft place
      (by simpa using unfilled)
    refine reads.mono ?_
    rintro id behind ⟨showing, listed, shown⟩
    exact ⟨showing, place, colon, listed, shown⟩
  | case3 =>
    refine .scan (forward_scanColon text) fun text _ => ?_
    exact .scan (forward_skipValue text) fun rest _ => .pure fun _ => Iff.rfl

/-- A record that is completed from a draft has the ids of the draft. -/
theorem Shape.MeetsIds.completed (meets : shape.MeetsIds held ids fields)
    {shows : String → List Char → Prop} {reading : Reading (σ × List Char)} {text : List Char}
    (reads : reading.Meets text [] held shows) (cause : Nat → Cause) :
    (reading >>= fun (draft, rest) =>
      match shape.complete draft with
      | .ok record => pure (record, rest)
      | .error position => .fault (.before (cause position) rest)).Meets text [] ids shows := by
  refine .bind reads fun draft rest _ => ?_
  cases made : shape.complete draft with
  | ok record => simpa [made] using .pure fun _ => by rw [meets.complete draft record made]
  | error position => simpa [made] using .fault List.suffix_rfl

/-- A record meets the ids of its fields, in whichever form it is written, as an
array of the fields in their order or as an object with any order. -/
theorem Shape.MeetsIds.read (meets : shape.MeetsIds held ids fields) (depth : Nat)
    (text : List Char) :
    (shape.read depth text).Meets text [] ids (shape.shows fields depth text) := by
  fun_cases shape.read depth text with
  | case1 rest next => exact .fault (suffix_of_skipSpace next)
  | case2 rest next => exact .fault (suffix_of_skipSpace next)
  | case3 depth rest next =>
    have slots := (meets_slots meets.each meets.apart depth true meets.unfilled rest).behind
      (suffix_of_skipSpace_cons next)
    rw [meets.blank] at slots
    refine meets.completed (slots.mono ?_) fun position =>
      .wrongLength position shape.title shape.fields.length
    rintro id behind ⟨name, showing, place, listed, found, shown⟩
    exact ⟨name, showing, place, listed, .slot next found, shown⟩
  | case4 depth rest next =>
    have members := (meets_membersFrom (meets.member depth) (rest.length + 1) true shape.blank
      rest).behind (suffix_of_skipSpace_cons next)
    rw [meets.blank] at members
    refine meets.completed (members.mono ?_) fun position =>
      .missingField (shape.fieldName position)
    rintro id behind ⟨name, start, found, showing, place, colon, listed, shown⟩
    exact ⟨name, showing, place, listed, .member next found colon, shown⟩
  | case5 =>
    refine .refused ?_ (scanWanted_none _ _)
    exact (forward_scanWanted ..).trans (suffix_of_skipSpace rfl)

end MeetsIds

section OfReader

variable {name : String} {stored : σ → Option α} {put : σ → α → σ}
  {reader : Nat → List Char → Reading (α × List Char)} {held : σ → List String}
  {fields : List (String × Showing)}

/-- A field that shows ids adds those of what it is read as to those that the draft
has. -/
theorem Slot.meetsIds_ofReader {ids : α → List String} {showing : Showing}
    (reads : ∀ depth text, (reader depth text).Meets text [] ids (showing depth text))
    (listed : (name, showing) ∈ fields)
    (puts : ∀ draft value, stored draft = none →
      ∀ id, id ∈ held (put draft value) ↔ id ∈ held draft ∨ id ∈ ids value) :
    (Slot.ofReader name stored put reader).MeetsIds held fields := by
  intro depth draft text unfilled
  have empty : stored draft = none := by simpa [Slot.ofReader] using unfilled
  have readsAfter := (reads depth text).after (held draft)
  rw [List.append_nil] at readsAfter
  refine .bind (readsAfter.mono fun id behind shown => ⟨showing, listed, shown⟩)
    fun value rest _ => ?_
  exact .pure fun id => by rw [puts draft value empty, List.mem_append]

/-- A field that shows no id adds none, so the draft has the ids that it had. -/
theorem Slot.meetsIds_without_ids
    (reads : ∀ depth text, (reader depth text).Meets text [] (fun _ => []) fun _ _ => False)
    (keeps : ∀ draft value, held (put draft value) = held draft) :
    (Slot.ofReader name stored put reader).MeetsIds held fields := by
  intro depth draft text _
  have readsAfter := (reads depth text).after (held draft)
  simp only [List.append_nil] at readsAfter
  refine .bind (readsAfter.mono fun _ _ => False.elim) fun value rest _ => ?_
  exact .pure fun id => by rw [keeps]

/-- A field leaves another one to itself if what it puts into a draft does. -/
theorem Slot.leaves_ofReader {other : Slot σ}
    (keeps : ∀ draft value, other.filled (put draft value) = other.filled draft) :
    (Slot.ofReader name stored put reader).Leaves other := by
  intro depth draft text after rest read
  rw [Slot.ofReader, Reading.outcome_bind] at read
  cases taken : (reader depth text).outcome with
  | error fault => simp [taken, Bind.bind, Except.bind] at read
  | ok found =>
    obtain ⟨rfl, -⟩ : put draft found.1 = after ∧ found.2 = rest := by
      simpa [taken, Bind.bind, Except.bind] using read
    exact keeps draft found.1

end OfReader

end Records

section Whole

variable {α : Type}

/-- A reading of a whole text meets the ids of what it read and no others. If it fails, each id
that it meets is shown by the text, in front of the fault. -/
def Reading.MeetsOnly (reading : Reading α) (text : String) (ids : α → List String)
    (shows : Showing) : Prop :=
  match reading.outcome with
  | .ok value => ∀ id, id ∈ reading.seen ↔ id ∈ ids value
  | .error fault => ∀ id ∈ reading.seen, ∃ behind, shows nestingLimit text.toList id behind ∧
      behind <:+ text.toList ∧ fault.unread <:+ behind

/-- A whole text meets what its reader does; nothing but space may follow, and that
meets nothing. -/
theorem meetsOnly_whole {reader : Nat → List Char → Reading (α × List Char)}
    {ids : α → List String} {shows : Showing}
    (meets : ∀ depth text, (reader depth text).Meets text [] ids (shows depth text))
    (text : String) : (readWhole reader text).MeetsOnly text ids shows := by
  obtain ⟨-, shown, exact⟩ := meets nestingLimit text.toList
  cases read : (reader nestingLimit text.toList).outcome with
  | error fault =>
    rw [read] at shown
    rw [readWhole, Reading.bind_of_error read]
    exact shown
  | ok found =>
    obtain ⟨value, rest⟩ := found
    rw [read] at shown
    rw [readWhole, Reading.bind_of_ok read]
    cases trailing : skipSpace rest with
    | nil =>
      have ofValue := exact value rest read
      simpa [Reading.MeetsOnly, trailing] using fun id => (ofValue id).symm
    | cons c more =>
      have inFront : ∀ id ∈ (reader nestingLimit text.toList).seen,
          ∃ behind, shows nestingLimit text.toList id behind ∧ behind <:+ text.toList ∧
            c :: more <:+ behind := by
        intro id met
        obtain ⟨behind, shows, inside, forward⟩ := shown id met
        exact ⟨behind, shows, inside, (suffix_of_skipSpace trailing).trans forward⟩
      simpa [Reading.MeetsOnly, Reading.fault, trailing] using inFront

end Whole

end CloudDiagram.Json
