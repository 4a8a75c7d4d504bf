/-!
# Ids in use

The registry remembers every id that was ever seen, so that an id made up later
is a new one. An id is made up from a stem and a number: the numbers are counted
for all stems together, and a number whose id was seen is passed over. Seen ids
are never forgotten, and numbers are never given back.
-/

namespace CloudDiagram

/-- The part of an id behind its last dash, if that is a number: at least one digit
and nothing else. It is kept as text, with leading zeros, since it is only put into
other names. -/
def idNumber? (id : String) : Option String :=
  let behind := (id.toList.reverse.takeWhile (· ≠ '-')).reverse
  if id.toList.contains '-' ∧ behind ≠ [] ∧ behind.all Char.isDigit then
    some (String.ofList behind)
  else none

/-- A stem and a number, with a dash between them. The number has no leading zeros,
so it is read back from the end of the id. -/
def numberedId (stem : String) (number : UInt64) : String :=
  stem ++ "-" ++ toString number.toNat

/-- The ids seen so far, each once, and the number to try next. The order of the ids
does not matter to anything, and ids with other stems count as well. -/
structure Registry where
  seen : List String := []
  next : UInt64 := 1
deriving DecidableEq, Repr

namespace Registry

/-- The registry before anything was seen. Numbers begin with one. -/
def empty : Registry := {}

/-- Whether an id was seen, in a diagram or only in a text or a request. -/
def knows (registry : Registry) (id : String) : Bool := registry.seen.contains id

/-- Remember an id. One that is known already is not put in a second time. -/
def learn (registry : Registry) (id : String) : Registry :=
  if registry.knows id then registry else { registry with seen := id :: registry.seen }

/-- Remember ids, one after another. An id that comes several times is remembered
once. -/
def learnAll (registry : Registry) (ids : List String) : Registry := ids.foldl learn registry

/-- An id is known after learning one if it is that one or was known before.
Learning never forgets an id. -/
theorem knows_learn (registry : Registry) (id sought : String) :
    (registry.learn id).knows sought = (sought == id || registry.knows sought) := by
  unfold learn
  split
  · rename_i known
    by_cases same : sought = id
    · subst same
      simp [known]
    · simp [same]
  · by_cases same : sought = id <;> simp [knows, same]

/-- An id is known after learning some if it is among them or was known before. The
order in which they are learned does not matter for this. -/
theorem knows_learnAll (registry : Registry) (ids : List String) (sought : String) :
    (registry.learnAll ids).knows sought = (ids.contains sought || registry.knows sought) := by
  induction ids generalizing registry with
  | nil => simp [learnAll]
  | cons id rest inductionHypothesis =>
    change ((registry.learn id).learnAll rest).knows sought = _
    rw [inductionHypothesis, knows_learn, List.contains_cons]
    cases rest.contains sought <;> cases sought == id <;> simp

/-- The first number from `number` on whose id was not seen, and the number after
it. One try more than there are seen ids is enough, as long as numbers do not
repeat; after the last try the number is taken as it is. -/
def freeNumber (registry : Registry) (stem : String) : Nat → UInt64 → UInt64
  | 0, number => number
  | tries + 1, number =>
    if registry.knows (numberedId stem number) then freeNumber registry stem tries (number + 1)
    else number

/-- A new id with the given stem. It is remembered, and its number is used up with
all those that were passed over. Numbers start over after the largest one of 64
bits. -/
def fresh (registry : Registry) (stem : String) : String × Registry :=
  let number := registry.freeNumber stem registry.seen.length registry.next
  let id := numberedId stem number
  (id, { registry.learn id with next := number + 1 })

end Registry

end CloudDiagram
