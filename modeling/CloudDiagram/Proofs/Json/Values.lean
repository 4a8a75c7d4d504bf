import CloudDiagram.Proofs.Json.Walks

/-!
# Values are read back

A value is read from its text if as many brackets may be opened as the value nests, and refused
if not. Reading inserts the members of an object one by one, so it gives the value itself, with
its doubles read again, if the members of all its objects stand in key order already, without
repetition; such a value is canonical. Every value that was read is canonical, and nests no
deeper than was allowed.
-/

namespace CloudDiagram.Entries

/-- Entries after an insertion are the inserted one and some of those from before.
An entry of the same key is replaced. -/
theorem mem_insert {α : Type} {entries : List (String × α)} {key : String} {value : α}
    {entry : String × α} (member : entry ∈ insert key value entries) :
    entry = (key, value) ∨ entry ∈ entries := by
  induction entries with
  | nil => exact Or.inl (List.mem_singleton.mp member)
  | cons head rest inductionHypothesis =>
    obtain ⟨other, held⟩ := head
    simp only [insert] at member
    split at member
    · exact List.mem_cons.mp member
    · split at member
      · rcases List.mem_cons.mp member with rfl | member
        · exact Or.inr List.mem_cons_self
        · exact (inductionHypothesis member).imp_right (.tail _)
      · exact (List.mem_cons.mp member).imp_right (.tail _)

end CloudDiagram.Entries

namespace CloudDiagram.Json

namespace Value

mutual

/-- How many brackets are open at the innermost place of a value. A text may nest so
deep and no deeper. -/
def nesting : Value → Nat
  | null | bool _ | number _ | string _ => 0
  | array items => itemsNesting items + 1
  | object members => membersNesting members + 1

/-- The deepest nesting of the items. -/
def itemsNesting : List Value → Nat
  | [] => 0
  | item :: rest => max item.nesting (itemsNesting rest)

/-- The deepest nesting of the members. -/
def membersNesting : List (String × Value) → Nat
  | [] => 0
  | (_, value) :: rest => max value.nesting (membersNesting rest)

end

/-- Items nest as deep as the deepest of them, so a bound on all is a bound on each.
-/
theorem itemsNesting_le_iff {items : List Value} {depth : Nat} :
    itemsNesting items ≤ depth ↔ ∀ item ∈ items, item.nesting ≤ depth := by
  induction items with
  | nil => simp [itemsNesting]
  | cons item items inductionHypothesis =>
    rw [itemsNesting, Nat.max_le, List.forall_mem_cons, inductionHypothesis]

/-- Members nest as deep as the deepest of them; their keys do not nest. -/
theorem membersNesting_le_iff {members : List (String × Value)} {depth : Nat} :
    membersNesting members ≤ depth ↔ ∀ member ∈ members, member.2.nesting ≤ depth := by
  induction members with
  | nil => simp [membersNesting]
  | cons member members inductionHypothesis =>
    rw [membersNesting, Nat.max_le, List.forall_mem_cons, inductionHypothesis]

/-- The members of every object in the value stand in key order, and no key stands
twice. Reading gives no other values, since members are inserted at their place. -/
inductive Canonical : Value → Prop where
  | null : Canonical null
  | bool (value : Bool) : Canonical (bool value)
  | number (value : Number) : Canonical (number value)
  | string (text : String) : Canonical (string text)
  | array {items : List Value} (parts : ∀ item ∈ items, Canonical item) : Canonical (array items)
  | object {members : List (String × Value)} (ordered : Entries.Ordered members)
    (parts : ∀ member ∈ members, Canonical member.2) : Canonical (object members)

/-- A value without brackets is canonical, as there is no object in it. -/
theorem canonical_of_scalar {value : Value} (scalar : value.nesting = 0) : value.Canonical := by
  cases value with
  | null => exact .null
  | bool value => exact .bool value
  | number value => exact .number value
  | string text => exact .string text
  | array _ | object _ => simp [nesting] at scalar

/-- The value is canonical and nests no deeper than allowed. Such a value is read
back. -/
structure Within (depth : Nat) (value : Value) : Prop where
  canonical : value.Canonical
  shallow : value.nesting ≤ depth

/-- The members of an object stand in key order, and each is canonical and nests no
deeper than allowed. It is the invariant of the loop that reads an object. -/
structure MembersWithin (depth : Nat) (members : List (String × Value)) : Prop where
  ordered : Entries.Ordered members
  parts : ∀ member ∈ members, member.2.Within depth

namespace Within

/-- A value without brackets is allowed everywhere, also where no bracket may be
opened. -/
theorem of_scalar {value : Value} (scalar : value.nesting = 0) (depth : Nat) :
    value.Within depth :=
  ⟨canonical_of_scalar scalar, scalar ▸ Nat.zero_le depth⟩

/-- An array nests one level deeper than its items. -/
theorem array {depth : Nat} {items : List Value} (parts : ∀ item ∈ items, item.Within depth) :
    (Value.array items).Within (depth + 1) := by
  have inside : itemsNesting items ≤ depth :=
    itemsNesting_le_iff.mpr fun item member => (parts item member).shallow
  exact ⟨.array fun item member => (parts item member).canonical, Nat.succ_le_succ inside⟩

/-- An object nests one level deeper than its members. -/
theorem object {depth : Nat} {members : List (String × Value)}
    (within : MembersWithin depth members) : (Value.object members).Within (depth + 1) := by
  have inside : membersNesting members ≤ depth :=
    membersNesting_le_iff.mpr fun member present => (within.parts member present).shallow
  exact ⟨.object within.ordered fun member present => (within.parts member present).canonical,
    Nat.succ_le_succ inside⟩

/-- The members of an object that is allowed are allowed one level deeper. -/
theorem of_object {depth : Nat} {members : List (String × Value)}
    (within : (Value.object members).Within depth) :
    ∃ inner, depth = inner + 1 ∧ MembersWithin inner members := by
  obtain ⟨canonical, shallow⟩ := within
  cases canonical with
  | object ordered parts =>
    cases depth with
    | zero => exact absurd shallow (Nat.not_succ_le_zero _)
    | succ inner =>
      have inside := membersNesting_le_iff.mp (Nat.le_of_succ_le_succ shallow)
      exact ⟨inner, rfl, ordered, fun member present =>
        ⟨parts member present, inside member present⟩⟩

/-- What is allowed somewhere is allowed where more is. A payload that was read
inside a list may be written alone. -/
theorem mono {depth deeper : Nat} {value : Value} (within : value.Within depth)
    (less : depth ≤ deeper) : value.Within deeper :=
  ⟨within.canonical, Nat.le_trans within.shallow less⟩

end Within

/-- A member joins others at its place: their order is kept, and it replaces one of
its key. -/
theorem MembersWithin.insert {depth : Nat} {members : List (String × Value)}
    (within : MembersWithin depth members) (key : String) {value : Value}
    (held : value.Within depth) : MembersWithin depth (Entries.insert key value members) := by
  constructor
  · exact within.ordered.insert key value
  · intro member present
    rcases Entries.mem_insert present with rfl | present
    · exact held
    · exact within.parts member present

end Value

open Value

/-- A numeral starts with its sign or a digit, since it has a digit before the
point. -/
theorem Numeral.exists_chars_cons {numeral : Numeral} (wellFormed : numeral.WellFormed) :
    ∃ c text, numeral.chars = c :: text ∧ (c = '-' ∨ c.isDigit = true) := by
  cases negative : numeral.negative with
  | true => exact ⟨'-', _, by rw [chars, negative]; rfl, Or.inl rfl⟩
  | false =>
    obtain ⟨first, more, digits⟩ := List.exists_cons_of_ne_nil wellFormed.whole_ne
    exact ⟨first, _, by rw [chars, negative, digits]; rfl,
      Or.inr (wellFormed.whole first (digits ▸ List.mem_cons_self))⟩

/-- A number starts with its sign or a digit, be it an integer or a double. -/
theorem Number.exists_chars_cons (number : Number) :
    ∃ c text, number.chars = c :: text ∧ (c = '-' ∨ c.isDigit = true) := by
  cases number with
  | integer whole =>
    have cons := Numeral.exists_chars_cons (Numeral.wellFormed_ofInt whole.value)
    rwa [Numeral.chars_ofInt] at cons
  | double value =>
    have cons := Numeral.exists_chars_cons
      (Numeral.wellFormed_ofDecimal value.negative (Numeral.plain_shortest value.magnitude))
    rwa [Numeral.chars_ofDecimal] at cons

/-- A sign and a digit are neither space nor a bracket, and start no word and no
string. So the reader goes to the number at once. -/
theorem number_start {c : Char} (start : c = '-' ∨ c.isDigit = true) :
    isSpace c = false ∧ c ≠ '[' ∧ c ≠ '{' ∧ c ≠ ']' ∧ c ≠ 'n' ∧ c ≠ 't' ∧ c ≠ 'f' ∧ c ≠ '"' := by
  rcases start with rfl | digit
  · decide
  · have other (d : Char) (noDigit : d.isDigit = false) : c ≠ d := by
      rintro rfl
      rw [digit] at noDigit
      cases noDigit
    simp [isSpace, other]

/-- A value without brackets starts with a character that is no space and no
bracket. The first character shows which of them it is. -/
theorem exists_chars_cons_of_scalar {value : Value} (scalar : value.nesting = 0) :
    ∃ c text, value.chars = c :: text ∧ isSpace c = false ∧ c ≠ '[' ∧ c ≠ '{' ∧ c ≠ ']' := by
  cases value with
  | null => exact ⟨'n', _, rfl, by decide⟩
  | bool flag => cases flag <;> exact ⟨_, _, rfl, by decide⟩
  | number value =>
    obtain ⟨c, text, cons, start⟩ := value.exists_chars_cons
    obtain ⟨space, list, object, closing, -⟩ := number_start start
    exact ⟨c, text, cons, space, list, object, closing⟩
  | string text => exact ⟨'"', _, rfl, by decide⟩
  | array _ | object _ => simp [nesting] at scalar

/-- A value without brackets is read, and nothing behind it. Only a double may come
out as another one. -/
theorem scanScalar_chars {value : Value} (scalar : value.nesting = 0) {rest : List Char}
    (ends : Numeral.Ends rest) : scanScalar (value.chars ++ rest) = .ok (value.reread, rest) := by
  cases value with
  | null => exact congrArg (Except.map _) (wordTail_append ['u', 'l', 'l'] rest)
  | bool flag =>
    cases flag with
    | true => exact congrArg (Except.map _) (wordTail_append ['r', 'u', 'e'] rest)
    | false => exact congrArg (Except.map _) (wordTail_append ['a', 'l', 's', 'e'] rest)
  | number value =>
    obtain ⟨c, text, cons, start⟩ := value.exists_chars_cons
    obtain ⟨-, -, -, -, notN, notT, notF, notQuote⟩ := number_start start
    have scanned := scanNumber_chars value ends
    rw [cons, List.cons_append] at scanned
    rw [chars, cons, List.cons_append, scanScalar, if_neg notN, if_neg notT, if_neg notF,
      if_neg notQuote, if_pos start, scanned]
    cases value <;> rfl
  | string text =>
    have scanned := scanString_quoted text rest
    simp [chars, quotedChars, scanScalar, scanned, Except.map, reread, mapDoubles]
  | array _ | object _ => simp [nesting] at scalar

/-- Where no bracket stands, any value is read before it is judged. A value of
another type is therefore passed, and its own faults come first. -/
theorem scanWanted_cons {α : Type} (wanted : Wanted) (pick : Value → Option α) {c : Char}
    (token : isSpace c = false) (notList : c ≠ '[') (notObject : c ≠ '{') (text : List Char) :
    (scanWanted wanted pick (c :: text)).toOption =
      (scanScalar (c :: text)).toOption.bind fun (value, rest) => (pick value).map (·, rest) := by
  rw [scanWanted.eq_def, skipSpace_cons token]
  split
  · simp_all
  · simp_all
  · simp_all
  · cases scanned : scanScalar (c :: text) with
    | error fault => rfl
    | ok read =>
      obtain ⟨value, rest⟩ := read
      cases picked : pick value <;>
        simp [picked, Except.toOption, bind, Except.bind, pure, Except.pure, throw, throwThe,
          MonadExceptOf.throw]

/-- A value without brackets that is wanted is picked, and any other is refused.
What is judged is the value that is read, in which a double may have changed. -/
theorem reads_scanWanted {α : Type} (wanted : Wanted) (pick : Value → Option α) {value : Value}
    (scalar : value.nesting = 0) :
    Reads (fun text => .ofExcept (scanWanted wanted pick text)) value.chars
      (pick value.reread) := by
  intro rest ends
  obtain ⟨c, text, cons, token, notList, notObject, -⟩ := exists_chars_cons_of_scalar scalar
  have scanned := scanScalar_chars scalar ends
  rw [cons, List.cons_append] at scanned ⊢
  change (scanWanted wanted pick (c :: (text ++ rest))).toOption = _
  rw [scanWanted_cons wanted pick token notList notObject, scanned]
  rfl

/-- A text is read as it was written, wherever a text is wanted. -/
theorem reads_text (text : String) :
    Reads (fun chars => .ofExcept (scanText chars)) (Value.string text).chars (some text) :=
  reads_scanWanted .text Value.text? rfl

/-- Every value starts with a character that is no space and closes no array, so an
array is not taken to end in front of it. -/
theorem opens_chars (value : Value) : Opens value.chars := by
  by_cases scalar : value.nesting = 0
  · obtain ⟨c, text, cons, space, -, -, closing⟩ := exists_chars_cons_of_scalar scalar
    exact ⟨c, text, cons, space, closing⟩
  · cases value with
    | array items => exact ⟨'[', _, rfl, by decide⟩
    | object members => exact ⟨'{', _, rfl, by decide⟩
    | null | bool _ | number _ | string _ => exact absurd rfl scalar

/-- A value without brackets is read at any depth, as it opens none. -/
theorem reads_scalar (depth : Nat) {value : Value} (scalar : value.nesting = 0) :
    Reads (readValue depth) value.chars (some value.reread) := by
  intro rest ends
  obtain ⟨c, text, cons, token, notList, notObject, -⟩ := exists_chars_cons_of_scalar scalar
  have scanned := scanScalar_chars scalar ends
  rw [cons, List.cons_append] at scanned ⊢
  rw [readValue, skipSpace_cons token]
  · simp [scanned, Except.toOption]
  -- no bracket stands in front
  all_goals simp [skipSpace_cons token, notList, notObject]

/-- Items of which each is read if it satisfies a condition are all read if all
satisfy it. One that does not is enough for the whole list to be refused. -/
theorem mapM_if {α β : Type} {condition : α → Prop} [DecidablePred condition] (f : α → β)
    (items : List α) :
    (items.mapM fun item => if condition item then some (f item) else none) =
      if ∀ item ∈ items, condition item then some (items.map f) else none := by
  induction items with
  | nil => rfl
  | cons item items inductionHypothesis =>
    by_cases here : condition item
    · by_cases others : ∀ other ∈ items, condition other
      · simp_all
      · simp_all
    · simp [here]

/-- The member of an object is read into the members before it, at the place of its
key. -/
def readEntry (depth : Nat) (key : String) (members : List (String × Value)) (text : List Char) :
    Reading (List (String × Value) × List Char) := do
  let text ← .ofExcept (scanColon text)
  let (value, text) ← readValue depth text
  return (Entries.insert key value members, text)

/-- An array is read with one bracket less to open, and its items are read one by
one. -/
theorem readValue_array (depth : Nat) (rest : List Char) :
    readValue (depth + 1) ('[' :: rest) = (do
      let (items, rest) ← readItems (readValue depth) rest
      return (.array items, rest)) := by
  rw [readValue.eq_def, skipSpace_cons (by decide)]
  rfl

/-- An object is read with one bracket less to open, and its members are read into
an empty table. -/
theorem readValue_object (depth : Nat) (rest : List Char) :
    readValue (depth + 1) ('{' :: rest) = (do
      let (members, rest) ← readMembers (readEntry depth) [] rest
      return (.object members, rest)) := by
  rw [readValue.eq_def, skipSpace_cons (by decide)]
  rfl

/-- No bracket is opened at depth zero, whatever stands behind it. -/
theorem readValue_zero {bracket : Char} (opening : bracket = '[' ∨ bracket = '{')
    (rest : List Char) : (readValue 0 (bracket :: rest)).value? = none := by
  rcases opening with rfl | rfl
  · rw [readValue.eq_def, skipSpace_cons (by decide)]
    rfl
  · rw [readValue.eq_def, skipSpace_cons (by decide)]
    rfl

/-- The colon behind a key is passed. -/
theorem scanColon_cons (rest : List Char) : scanColon (':' :: rest) = .ok rest := by
  rw [scanColon, skipSpace_cons (by decide)]
  rfl

/-- A member is read as its value is, behind its key and the colon. -/
theorem reads_entry {depth : Nat} {value : Value} {result : Option Value}
    (reads : Reads (readValue depth) value.chars result) (key : String)
    (members : List (String × Value)) :
    Reads (readEntry depth key members) (':' :: value.chars)
      (result.map fun value => Entries.insert key value members) := by
  intro rest ends
  have read := reads rest ends
  rw [List.cons_append, readEntry, scanColon_cons]
  cases result <;> simp_all [Except.toOption]

/-- Members are read again and inserted one by one, unless one of them nests too
deep. The induction is over the members, and the table before them grows. -/
theorem walk_entries {depth : Nat} {members : List (String × Value)}
    (reads : ∀ member ∈ members, Reads (readValue depth) member.2.chars
      (if member.2.nesting ≤ depth then some member.2.reread else none))
    (before : List (String × Value)) :
    Walk (readEntry depth) before members
      (if ∀ member ∈ members, member.2.nesting ≤ depth then
        some ((members.map fun member => (member.1, member.2.reread)).foldl
          (fun table entry => Entries.insert entry.1 entry.2 table) before)
      else none) := by
  induction members generalizing before with
  | nil => exact .done before
  | cons member members inductionHypothesis =>
    obtain ⟨key, value⟩ := member
    have head := reads_entry (reads (key, value) List.mem_cons_self) key before
    by_cases fits : value.nesting ≤ depth
    · rw [if_pos fits] at head
      have others := inductionHypothesis (fun member present => reads member (.tail _ present))
        (Entries.insert key value.reread before)
      have condition : (∀ member ∈ (key, value) :: members, member.2.nesting ≤ depth) ↔
          ∀ member ∈ members, member.2.nesting ≤ depth := by
        rw [List.forall_mem_cons, and_iff_right fits]
      rw [if_congr condition rfl rfl]
      exact .more head others
    · rw [if_neg fits] at head
      have condition : ¬∀ member ∈ (key, value) :: members, member.2.nesting ≤ depth := by
        intro all
        exact fits (all (key, value) List.mem_cons_self)
      rw [if_neg condition]
      exact .refused head

/-- A canonical value is read again if it does not nest deeper than allowed, and refused if it
does. The induction is on the value: its parts are read with one bracket less to open. -/
theorem reads_value {value : Value} (canonical : value.Canonical) (depth : Nat) :
    Reads (readValue depth) value.chars
      (if value.nesting ≤ depth then some value.reread else none) := by
  induction canonical generalizing depth with
  | null | bool _ | number _ | string _ => exact reads_scalar depth rfl
  | @array items parts inductionHypothesis =>
    intro rest _
    rw [chars, List.cons_append, List.append_assoc, itemsChars_eq, List.singleton_append]
    cases depth with
    | zero =>
      rw [readValue_zero (Or.inl rfl)]
      simp [nesting]
    | succ depth =>
      have walked := readItems_parted (fun item _ => opens_chars item)
        (fun item member => inductionHypothesis item member depth) rest
      rw [mapM_if] at walked
      rw [readValue_array, Reading.value?_bind, walked, reread, mapDoubles, mapDoublesItems_eq]
      by_cases fits : ∀ item ∈ items, item.nesting ≤ depth
      · simp only [nesting, itemsNesting_le_iff, Nat.add_le_add_iff_right, if_pos fits]
        rfl
      · simp only [nesting, itemsNesting_le_iff, Nat.add_le_add_iff_right, if_neg fits]
        rfl
  | @object members ordered parts inductionHypothesis =>
    intro rest _
    rw [chars, List.cons_append, List.append_assoc, membersChars_eq, List.singleton_append]
    cases depth with
    | zero =>
      rw [readValue_zero (Or.inr rfl)]
      simp [nesting]
    | succ depth =>
      have walked := readMembers_parted
        (walk_entries (fun member present => inductionHypothesis member present depth) []) rest
      -- reading a value again does not move it to another place
      have orderedAgain :
          Entries.Ordered (members.map fun member => (member.1, member.2.reread)) :=
        List.pairwise_map.mpr ordered
      have kept := Entries.ofList_of_ordered orderedAgain
      rw [Entries.ofList] at kept
      rw [readValue_object, Reading.value?_bind, walked, kept, reread, mapDoubles,
        mapDoublesMembers_eq]
      by_cases fits : ∀ member ∈ members, member.2.nesting ≤ depth
      · simp only [nesting, membersNesting_le_iff, Nat.add_le_add_iff_right, if_pos fits]
        rfl
      · simp only [nesting, membersNesting_le_iff, Nat.add_le_add_iff_right, if_neg fits]
        rfl

/-- What was read, if anything was, has a property. Nothing is said of a reading
that ends in a fault. -/
def Yields {α : Type} (reading : Reading (α × List Char)) (property : α → Prop) : Prop :=
  ∀ value rest, reading.value? = some (value, rest) → property value

section Yields

variable {α β σ : Type}

/-- What is made of something that was read has a property, if it has it whenever that was read
with one. -/
theorem Yields.map {reading : Reading (α × List Char)} {property : α → Prop}
    (yields : Yields reading property) {wanted : β → Prop} {f : α → β}
    (make : ∀ value, property value → wanted (f value)) :
    Yields (do let (value, rest) ← reading; return (f value, rest)) wanted := by
  intro made rest read
  rw [Reading.value?_bind] at read
  obtain ⟨⟨value, after⟩, readValue, read⟩ := Option.bind_eq_some_iff.mp read
  obtain ⟨rfl, -⟩ : f value = made ∧ after = rest := by simpa using read
  exact make value (yields value after readValue)

/-- If every item that is read has a property, then all items of an array have it.
The induction is on the bound of the loop, since the text may be any. -/
theorem yields_items {item : List Char → Reading (α × List Char)} {property : α → Prop}
    (each : ∀ text, Yields (item text) property) (bound : Nat) (first : Bool) (text : List Char) :
    Yields (readItemsFrom item bound first text) fun items => ∀ value ∈ items, property value := by
  induction bound generalizing first text with
  | zero =>
    intro items rest read
    simp [readItemsFrom] at read
  | succ bound inductionHypothesis =>
    intro items rest read
    rw [readItemsFrom, Reading.value?_bind] at read
    obtain ⟨step, -, read⟩ := Option.bind_eq_some_iff.mp read
    cases step with
    | done after =>
      obtain ⟨rfl, -⟩ : [] = items ∧ after = rest := by simpa using read
      intro value member
      cases member
    | more text =>
      simp only [Reading.value?_bind] at read
      obtain ⟨⟨head, text⟩, readHead, read⟩ := Option.bind_eq_some_iff.mp read
      obtain ⟨⟨tail, after⟩, readTail, read⟩ := Option.bind_eq_some_iff.mp read
      obtain ⟨rfl, -⟩ : head :: tail = items ∧ after = rest := by simpa using read
      intro value member
      rcases List.mem_cons.mp member with rfl | member
      · exact each _ _ _ readHead
      · exact inductionHypothesis false text tail after readTail value member

/-- If every member keeps a property of the state, then the members of an object
keep it. -/
theorem yields_members {member : String → σ → List Char → Reading (σ × List Char)}
    {invariant : σ → Prop}
    (each : ∀ key state text, invariant state → Yields (member key state text) invariant)
    (bound : Nat) (first : Bool) {state : σ} (text : List Char) (initial : invariant state) :
    Yields (readMembersFrom member bound first state text) invariant := by
  induction bound generalizing first state text with
  | zero =>
    intro final rest read
    simp [readMembersFrom] at read
  | succ bound inductionHypothesis =>
    intro final rest read
    rw [readMembersFrom, Reading.value?_bind] at read
    obtain ⟨step, -, read⟩ := Option.bind_eq_some_iff.mp read
    cases step with
    | done after =>
      obtain ⟨rfl, -⟩ : state = final ∧ after = rest := by simpa using read
      exact initial
    | more text =>
      simp only [Reading.value?_bind] at read
      obtain ⟨⟨key, text⟩, -, read⟩ := Option.bind_eq_some_iff.mp read
      obtain ⟨⟨next, text⟩, readMember, read⟩ := Option.bind_eq_some_iff.mp read
      exact inductionHypothesis false text (each key state _ initial _ _ readMember) _ _ read

end Yields

/-- A value that neither an array nor an object was read from has no brackets. -/
theorem nesting_of_scanScalar {text rest : List Char} {value : Value}
    (scanned : scanScalar text = .ok (value, rest)) : value.nesting = 0 := by
  cases text with
  | nil => cases scanned
  | cons c text =>
    have part {α : Type} {outcome : Except Fault α} {f : α → Value × List Char}
        (scanned : outcome.map f = .ok (value, rest)) : ∃ read, f read = (value, rest) := by
      cases outcome with
      | error fault => cases scanned
      | ok read => exact ⟨read, Except.ok.inj scanned⟩
    rw [scanScalar] at scanned
    repeat' split at scanned
    all_goals first
      | cases scanned
      | obtain ⟨read, made⟩ := part scanned
        rw [← (Prod.mk.inj made).1, nesting]

/-- A member that is read joins the others at its place, which keeps them in order.
-/
theorem yields_entry {depth : Nat} (each : ∀ text, Yields (readValue depth text) (Within depth))
    (key : String) (members : List (String × Value)) (text : List Char)
    (initial : MembersWithin depth members) :
    Yields (readEntry depth key members text) (MembersWithin depth) := by
  intro after rest read
  rw [readEntry, Reading.value?_bind] at read
  obtain ⟨text, -, read⟩ := Option.bind_eq_some_iff.mp read
  have joined : Yields _ (MembersWithin depth) :=
    (each text).map (f := fun value => Entries.insert key value members) fun _ held =>
      initial.insert key held
  exact joined after rest read

/-- Every value that is read is canonical and nests no deeper than allowed. The induction is on
the number of brackets that may be opened. -/
theorem yields_value (depth : Nat) (text : List Char) :
    Yields (readValue depth text) (Within depth) := by
  have scalar (depth : Nat) (text : List Char) :
      Yields (.ofExcept (scanScalar text)) (Within depth) := by
    intro value rest read
    exact .of_scalar (nesting_of_scanScalar (Reading.value?_eq_some_iff.mp read)) depth
  induction depth generalizing text with
  | zero =>
    rw [readValue.eq_def]
    split
    · nofun
    · nofun
    · contradiction
    · contradiction
    · exact scalar 0 _
  | succ depth inductionHypothesis =>
    rw [readValue.eq_def]
    split
    · contradiction
    · contradiction
    · rename_i same _
      obtain rfl := Nat.succ.inj same
      exact (yields_items inductionHypothesis _ _ _).map fun _ parts => .array parts
    · rename_i same _
      obtain rfl := Nat.succ.inj same
      exact (yields_members (yields_entry inductionHypothesis) _ _ _ ⟨.nil, nofun⟩).map
        fun _ within => .object within
    · exact scalar (depth + 1) _

end CloudDiagram.Json
