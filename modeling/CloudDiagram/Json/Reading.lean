import CloudDiagram.Json.Fault

/-!
# Readings

Reading a text meets ids, and a text that turns out faulty has still shown the
ids before the fault. A reading therefore holds the ids in the order of the text
beside the outcome. Readings run one after another: the ids add up, and the
first fault ends the run.
-/

namespace CloudDiagram.Json

/-- The ids met in a text, in its order, and what was read or the fault. An id that
comes twice is met twice. -/
structure Reading (α : Type) where
  seen : List String
  outcome : Except Fault α

namespace Reading

variable {α β : Type}

/-- Go on with what was read, unless a fault ended the reading. The ids of the first
part come before those of the second one. -/
def andThen (first : Reading α) (next : α → Reading β) : Reading β :=
  match first.outcome with
  | .ok value =>
    let second := next value
    ⟨first.seen ++ second.seen, second.outcome⟩
  | .error fault => ⟨first.seen, .error fault⟩

instance : Monad Reading where
  pure value := ⟨[], .ok value⟩
  bind := andThen

/-- A reading that meets no id. Words, numbers and strings that are no ids are read
in this way. -/
def ofExcept (outcome : Except Fault α) : Reading α := ⟨[], outcome⟩

/-- A reading that ends in a fault, before any id was met in it. -/
def fault (fault : Fault) : Reading α := ⟨[], .error fault⟩

/-- Meet an id, and read nothing. It is put behind the string that the id was read
from. -/
def meet (id : String) : Reading Unit := ⟨[id], .ok ()⟩

/-- What was read, if there was no fault. The fault itself is looked at only where
it is shown. -/
def value? (reading : Reading α) : Option α := reading.outcome.toOption

@[simp] theorem seen_pure (value : α) : (pure value : Reading α).seen = [] := rfl

@[simp] theorem outcome_pure (value : α) : (pure value : Reading α).outcome = .ok value := rfl

/-- A run that goes on meets the ids of both parts. With the next fact, this tells a
run from its parts without opening the definition. -/
theorem bind_of_ok {first : Reading α} {value : α} (read : first.outcome = .ok value)
    (next : α → Reading β) :
    first >>= next = ⟨first.seen ++ (next value).seen, (next value).outcome⟩ := by
  change andThen first next = _
  simp [andThen, read]

/-- A run that has met a fault stops there and keeps the ids met before. What would
have come next is not looked at. -/
theorem bind_of_error {first : Reading α} {fault : Fault} (refused : first.outcome = .error fault)
    (next : α → Reading β) : first >>= next = ⟨first.seen, .error fault⟩ := by
  change andThen first next = _
  simp [andThen, refused]

/-- Going on with what was read changes nothing when nothing is left to do. This is
one of the laws of a monad. -/
theorem andThen_pure (reading : Reading α) : andThen reading pure = reading := by
  obtain ⟨seen, outcome⟩ := reading
  cases outcome <;> simp [andThen]

/-- How a run is split into parts does not matter. This is what lets a reader be
taken apart at any of its steps. -/
theorem andThen_assoc {γ : Type} (reading : Reading α) (next : α → Reading β)
    (last : β → Reading γ) :
    andThen (andThen reading next) last =
      andThen reading fun value => andThen (next value) last := by
  obtain ⟨seen, outcome⟩ := reading
  cases outcome with
  | error fault => simp [andThen]
  | ok value =>
    simp only [andThen]
    cases (next value).outcome <;> simp [List.append_assoc]

instance : LawfulMonad Reading :=
  LawfulMonad.mk' Reading andThen_pure (fun _ _ => by simp [bind, andThen])
    (fun reading next last => andThen_assoc reading next last)

end Reading

end CloudDiagram.Json
