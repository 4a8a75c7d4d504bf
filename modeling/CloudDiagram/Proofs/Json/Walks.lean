import CloudDiagram.Json.Reader
import CloudDiagram.Json.Writer
import CloudDiagram.Proofs.Json.Rereading
import CloudDiagram.Proofs.Json.Strings
import Mathlib.Data.List.Basic

/-!
# Walking over what was written

A reader is judged here by what it gives for a text with anything behind it, as long as that
does not go on with a number: either a result, and then nothing of what stands behind is
consumed, or a fault. Which fault it is does not matter, and neither do the ids that are met.

The parts of an array or object are written one after another, with a comma before each part
but the first. The loop over an array gives the results of all parts, or a fault if one part is
faulty. The loop over an object goes from state to state, as its members take it.
-/

namespace CloudDiagram.Json

namespace Reading

variable {α β : Type}

@[simp]
theorem value?_pure (value : α) : (pure value : Reading α).value? = some value := rfl

@[simp]
theorem value?_fault (fault : Fault) : (Reading.fault fault : Reading α).value? = none := rfl

@[simp]
theorem value?_ofExcept (outcome : Except Fault α) :
    (ofExcept outcome).value? = outcome.toOption := rfl

/-- A run has a result if both parts have one. The ids that are met play no part in
it. -/
@[simp]
theorem value?_bind (first : Reading α) (next : α → Reading β) :
    (first >>= next).value? = first.value?.bind fun value => (next value).value? := by
  obtain ⟨seen, outcome⟩ := first
  cases outcome with
  | ok value => rw [bind_of_ok rfl]; rfl
  | error fault => rw [bind_of_error rfl]; rfl

/-- What is done with a result changes nothing else. -/
@[simp]
theorem value?_map (change : α → β) (reading : Reading α) :
    (change <$> reading).value? = reading.value?.map change := by
  rw [← bind_pure_comp, value?_bind]
  cases reading.value? <;> rfl

/-- A reading has a result exactly if it did not end in a fault. Results are what
the lemmas below speak of, and outcomes are what the theorems about texts do. -/
theorem value?_eq_some_iff {reading : Reading α} {value : α} :
    reading.value? = some value ↔ reading.outcome = .ok value := by
  obtain ⟨seen, outcome⟩ := reading
  cases outcome <;> simp [value?, Except.toOption]

end Reading

/-- Of the text, whatever stands behind it, the reader makes the result and leaves what stands
behind; without a result it ends in a fault. What stands behind may not go on with a number. -/
def Reads {α : Type} (reader : List Char → Reading (α × List Char)) (text : List Char)
    (result : Option α) : Prop :=
  ∀ rest, Numeral.Ends rest → (reader (text ++ rest)).value? = result.map (·, rest)

/-- Parts with a comma before each of them, or before each but the first. Arrays and
objects are both written so. -/
def parted : Bool → List (List Char) → List Char
  | _, [] => []
  | true, part :: parts => part ++ parted false parts
  | false, part :: parts => ',' :: (part ++ parted false parts)

/-- A text starts with a character that is no space and closes no array. An item
must start so to be found by the loop. -/
def Opens (text : List Char) : Prop :=
  ∃ c rest, text = c :: rest ∧ isSpace c = false ∧ c ≠ ']'

/-- No number goes on behind a part, in front of a bracket: what follows is a comma
or the bracket. -/
theorem ends_parted {closing : Char}
    (closes : closing.isDigit = false ∧ closing ≠ '.' ∧ closing ≠ 'e' ∧ closing ≠ 'E')
    (parts : List (List Char)) (rest : List Char) :
    Numeral.Ends (parted false parts ++ closing :: rest) := by
  cases parts with
  | nil =>
    intro c first
    obtain rfl := Option.some.inj first
    exact closes
  | cons part parts =>
    intro c first
    obtain rfl := Option.some.inj first
    decide

section Items

variable {α β : Type}

/-- In front of the closing bracket an array ends. -/
theorem nextItem_closing (first : Bool) (rest : List Char) :
    nextItem first (']' :: rest) = .ok (.done rest) := by
  rw [nextItem, skipSpace_cons (by decide)]
  rfl

/-- An item follows, with a comma in front of it unless it is the first one. The
loop finds it where its text starts. -/
theorem nextItem_parted (first : Bool) {part : List Char} (opens : Opens part)
    (parts : List (List Char)) (rest : List Char) :
    nextItem first (parted first (part :: parts) ++ rest) =
      .ok (.more (part ++ (parted false parts ++ rest))) := by
  obtain ⟨c, more, rfl, token, notClosing⟩ := opens
  cases first with
  | true =>
    simp [parted, nextItem, skipSpace_cons token, notClosing]
  | false =>
    have comma : isSpace ',' = false := by decide
    simp [parted, nextItem, skipSpace_cons comma, skipSpace_cons token, notClosing]

/-- The items of an array are read one by one. If one is refused so is the array,
and otherwise all results are given in order. -/
theorem readItemsFrom_parted {item : List Char → Reading (α × List Char)} {chars : β → List Char}
    {result : β → Option α} {parts : List β} (opens : ∀ part ∈ parts, Opens (chars part))
    (reads : ∀ part ∈ parts, Reads item (chars part) (result part)) {bound : Nat}
    (enough : parts.length < bound) (first : Bool) (rest : List Char) :
    (readItemsFrom item bound first (parted first (parts.map chars) ++ ']' :: rest)).value? =
      (parts.mapM result).map (·, rest) := by
  induction parts generalizing bound first with
  | nil =>
    obtain ⟨bound, rfl⟩ := Nat.exists_eq_succ_of_ne_zero (Nat.ne_of_gt enough)
    simp [parted, readItemsFrom, nextItem_closing, Except.toOption]
  | cons part parts inductionHypothesis =>
    have positive : 0 < bound := Nat.zero_lt_of_lt enough
    obtain ⟨bound, rfl⟩ := Nat.exists_eq_succ_of_ne_zero (Nat.ne_of_gt positive)
    have others := inductionHypothesis (fun part member => opens part (.tail _ member))
      (fun part member => reads part (.tail _ member)) (Nat.lt_of_succ_lt_succ enough) false
    have head := reads part List.mem_cons_self (parted false (parts.map chars) ++ ']' :: rest)
      (ends_parted (by decide) _ _)
    rw [List.map_cons, readItemsFrom,
      nextItem_parted first (opens part List.mem_cons_self) (parts.map chars)]
    cases made : result part with
    | none => simp_all [Except.toOption]
    | some value => cases all : parts.mapM result <;> simp_all [Except.toOption]

end Items

section Members

variable {σ : Type}

/-- A member as text: its key, and its value behind a colon. There is no space
around it. -/
def memberChars (member : String × Value) : List Char :=
  quotedChars member.1 ++ ':' :: member.2.chars

/-- In front of the closing bracket an object ends. -/
theorem nextKey_closing (first : Bool) (rest : List Char) :
    nextKey first ('}' :: rest) = .ok (.done rest) := by
  rw [nextKey, skipSpace_cons (by decide)]
  rfl

/-- A member follows, with a comma in front of it unless it is the first one, and
its key is read up to the colon. -/
theorem nextKey_parted (first : Bool) (member : String × Value) (parts : List (List Char))
    (rest : List Char) :
    ∃ text, nextKey first (parted first (memberChars member :: parts) ++ rest) = .ok (.more text) ∧
      scanString text =
        .ok (member.1, ':' :: (member.2.chars ++ (parted false parts ++ rest))) := by
  refine ⟨_, ?_, scanString_quoted member.1 _⟩
  have comma : isSpace ',' = false := by decide
  have quote : isSpace '"' = false := by decide
  cases first with
  | true => simp [parted, memberChars, quotedChars, nextKey, skipSpace_cons quote]
  | false =>
    simp [parted, memberChars, quotedChars, nextKey, skipSpace_cons comma, skipSpace_cons quote]

/-- Reading one member after another takes a state to another one, or ends in a
fault. A walk is given member by member, so each may find the state that those
before it have left. -/
inductive Walk (member : String → σ → List Char → Reading (σ × List Char)) :
    σ → List (String × Value) → Option σ → Prop where
  | done (state : σ) : Walk member state [] (some state)
  | more {state after : σ} {key : String} {value : Value} {members : List (String × Value)}
      {result : Option σ} (reads : Reads (member key state) (':' :: value.chars) (some after))
      (others : Walk member after members result) :
      Walk member state ((key, value) :: members) result
  | refused {state : σ} {key : String} {value : Value} {members : List (String × Value)}
      (reads : Reads (member key state) (':' :: value.chars) none) :
      Walk member state ((key, value) :: members) none

/-- The members of an object are read one by one, as the walk takes the state. The
induction is over the walk. -/
theorem readMembersFrom_parted {member : String → σ → List Char → Reading (σ × List Char)}
    {state : σ} {members : List (String × Value)} {result : Option σ}
    (walk : Walk member state members result) {bound : Nat} (enough : members.length < bound)
    (first : Bool) (rest : List Char) :
    (readMembersFrom member bound first state
        (parted first (members.map memberChars) ++ '}' :: rest)).value? =
      result.map (·, rest) := by
  have closes : ('}').isDigit = false ∧ '}' ≠ '.' ∧ '}' ≠ 'e' ∧ '}' ≠ 'E' := by decide
  induction walk generalizing bound first with
  | done state =>
    obtain ⟨bound, rfl⟩ := Nat.exists_eq_succ_of_ne_zero (Nat.ne_of_gt enough)
    simp [parted, readMembersFrom, nextKey_closing, Except.toOption]
  | @more state after key value members result reads others inductionHypothesis =>
    have positive : 0 < bound := Nat.zero_lt_of_lt enough
    obtain ⟨bound, rfl⟩ := Nat.exists_eq_succ_of_ne_zero (Nat.ne_of_gt positive)
    obtain ⟨text, next, scanned⟩ :=
      nextKey_parted first (key, value) (members.map memberChars) ('}' :: rest)
    have head := reads _ (ends_parted closes (members.map memberChars) rest)
    have tail := inductionHypothesis (Nat.lt_of_succ_lt_succ enough) false
    rw [List.cons_append] at head
    simp [readMembersFrom, next, scanned, head, tail, Except.toOption]
  | @refused state key value members reads =>
    have positive : 0 < bound := Nat.zero_lt_of_lt enough
    obtain ⟨bound, rfl⟩ := Nat.exists_eq_succ_of_ne_zero (Nat.ne_of_gt positive)
    obtain ⟨text, next, scanned⟩ :=
      nextKey_parted first (key, value) (members.map memberChars) ('}' :: rest)
    have head := reads _ (ends_parted closes (members.map memberChars) rest)
    rw [List.cons_append] at head
    simp [readMembersFrom, next, scanned, head, Except.toOption]

end Members

namespace Value

/-- An item that others follow, each behind a comma. It unfolds how the writer goes
through a list. -/
theorem itemsChars_cons (item : Value) (items : List Value) :
    itemsChars (item :: items) = item.chars ++ parted false (items.map chars) := by
  induction items generalizing item with
  | nil => simp [itemsChars, parted]
  | cons next items inductionHypothesis => simp [itemsChars, parted, inductionHypothesis next]

/-- The items of an array are written with commas between them, which is what the
loop over an array is ready for. -/
theorem itemsChars_eq (items : List Value) : itemsChars items = parted true (items.map chars) := by
  cases items with
  | nil => rfl
  | cons item items => rw [itemsChars_cons, List.map_cons, parted]

/-- A member that others follow, each behind a comma, in the same way as items. -/
theorem membersChars_cons (member : String × Value) (members : List (String × Value)) :
    membersChars (member :: members) =
      memberChars member ++ parted false (members.map memberChars) := by
  induction members generalizing member with
  | nil => simp [membersChars, parted, memberChars]
  | cons next members inductionHypothesis =>
    simp [membersChars, parted, memberChars, inductionHypothesis next]

/-- The members of an object are written with commas between them, which is what the
loop over an object is ready for. -/
theorem membersChars_eq (members : List (String × Value)) :
    membersChars members = parted true (members.map memberChars) := by
  cases members with
  | nil => rfl
  | cons member members => rw [membersChars_cons, List.map_cons, parted]

end Value

/-- Parts that are not empty are fewer than the characters of what they are written
as. So the length of the text is enough of a bound for the loops. -/
theorem length_lt_parted {β : Type} {chars : β → List Char} {parts : List β}
    (nonempty : ∀ part ∈ parts, chars part ≠ []) (first : Bool) (rest : List Char) :
    parts.length < (parted first (parts.map chars) ++ rest).length + 1 := by
  induction parts generalizing first with
  | nil => exact Nat.succ_pos _
  | cons part parts inductionHypothesis =>
    have others := inductionHypothesis (fun part member => nonempty part (.tail _ member)) false
    have head : 0 < (chars part).length :=
      List.length_pos_iff.mpr (nonempty part List.mem_cons_self)
    cases first <;>
      simp only [List.map_cons, parted, List.length_cons, List.length_append] at others ⊢ <;> omega

/-- The items of an array, from behind its opening bracket, are read to its closing
bracket. The bound of the loop is the length of the text, which is enough. -/
theorem readItems_parted {α β : Type} {item : List Char → Reading (α × List Char)}
    {chars : β → List Char} {result : β → Option α} {parts : List β}
    (opens : ∀ part ∈ parts, Opens (chars part))
    (reads : ∀ part ∈ parts, Reads item (chars part) (result part)) (rest : List Char) :
    (readItems item (parted true (parts.map chars) ++ ']' :: rest)).value? =
      (parts.mapM result).map (·, rest) := by
  have nonempty : ∀ part ∈ parts, chars part ≠ [] := by
    intro part present
    obtain ⟨c, more, text, -⟩ := opens part present
    simp [text]
  exact readItemsFrom_parted opens reads (length_lt_parted nonempty true _) true rest

/-- The members of an object, from behind its opening bracket, are read to its
closing bracket. The bound is enough here too. -/
theorem readMembers_parted {σ : Type} {member : String → σ → List Char → Reading (σ × List Char)}
    {state : σ} {members : List (String × Value)} {result : Option σ}
    (walk : Walk member state members result) (rest : List Char) :
    (readMembers member state (parted true (members.map memberChars) ++ '}' :: rest)).value? =
      result.map (·, rest) := by
  have nonempty : ∀ member ∈ members, memberChars member ≠ [] := by
    intro member _
    simp [memberChars]
  exact readMembersFrom_parted walk (length_lt_parted nonempty true _) true rest

end CloudDiagram.Json
