import CloudDiagram.Proofs.Registry.Numbering
import Mathlib.Order.Bounds.Defs

/-!
# An id is made up within few rounds

An id is made up in rounds. Each round uses up the next number, and it gives the id of this
number unless that was seen; then another round follows. Nothing in a round bounds how many
of them there are.

That there is an end rests on the seen ids being finitely many: a round without an id passes
over a seen id of the stem, each one over another. So rounds end after one more than there are
such ids, and `Registry.fresh`, which counts its tries by the seen ids, is what they give. The
count of numbers does not start over on the way if there is room for all seen ids below the
largest word.
-/

namespace CloudDiagram

namespace Registry

/-- One round of making an id up. The next number is used up; its id is given and remembered,
unless it was seen. -/
def round (registry : Registry) (stem : String) : Option String × Registry :=
  let id := numberedId stem registry.next
  let counted := { registry with next := registry.next + 1 }
  if registry.knows id then (none, counted) else (some id, counted.learn id)

/-- Rounds follow each other until one gives an id. There is no result if none of the first
`bound` rounds does, so that an unfinished search is not taken for a finished one. -/
def rounds (registry : Registry) (stem : String) : Nat → Option (String × Registry)
  | 0 => none
  | bound + 1 =>
    match registry.round stem with
    | (some id, after) => some (id, after)
    | (none, later) => later.rounds stem bound

/-- After a round over a seen id, which only uses up its number, the others follow.
-/
theorem rounds_of_known (registry : Registry) {stem : String}
    (known : registry.knows (numberedId stem registry.next) = true) (bound : Nat) :
    registry.rounds stem (bound + 1) =
      ({ registry with next := registry.next + 1 } : Registry).rounds stem bound := by
  simp [rounds, round, known]

/-- A round over any other id gives it, and is the last one. The number is used up
in either case. -/
theorem rounds_of_unknown (registry : Registry) {stem : String}
    (unknown : registry.knows (numberedId stem registry.next) = false) (bound : Nat) :
    registry.rounds stem (bound + 1) = some (numberedId stem registry.next,
      { seen := numberedId stem registry.next :: registry.seen, next := registry.next + 1 }) := by
  have notSeen : ({ registry with next := registry.next + 1 } : Registry).knows
      (numberedId stem registry.next) = false := unknown
  simp [rounds, round, learn, unknown, notSeen]

/-- Rounds come to the number at which the search for a free one ends, if that has one try less
than there are rounds. They have a result if this number is free. -/
theorem rounds_succ (registry : Registry) (stem : String) (tries : Nat) (next : UInt64) :
    ({ registry with next } : Registry).rounds stem (tries + 1) =
      let number := registry.freeNumber stem tries next
      if registry.knows (numberedId stem number) then none
      else some (numberedId stem number,
        { seen := numberedId stem number :: registry.seen, next := number + 1 }) := by
  induction tries generalizing next with
  | zero =>
    rw [freeNumber]
    cases seen : registry.knows (numberedId stem next) with
    | true =>
      rw [rounds_of_known { registry with next } seen]
      simp [rounds, seen]
    | false =>
      rw [rounds_of_unknown { registry with next } seen]
      simp [seen]
  | succ tries inductionHypothesis =>
    rw [freeNumber]
    cases seen : registry.knows (numberedId stem next) with
    | true =>
      rw [rounds_of_known { registry with next } seen]
      exact inductionHypothesis (next + 1)
    | false =>
      rw [rounds_of_unknown { registry with next } seen]
      simp [seen]

/-- Where all seen ids have room below the largest word, a stem can be numbered: not all numbers
in that room are taken. -/
theorem canNumber_of_room {registry : Registry}
    (room : registry.next.toNat + registry.known.card + 1 ≤ 2 ^ 64 - 1) (stem : String) :
    registry.CanNumber stem := by
  by_contra cannot
  have passed : registry.Passes stem registry.next.toNat
      (registry.next.toNat + registry.known.card + 1) := by
    intro number start before
    have below : number < 2 ^ 64 - 1 := Nat.lt_of_lt_of_le before room
    have word : (UInt64.ofNat number).toNat = number :=
      UInt64.toNat_ofNat_of_lt (Nat.lt_of_lt_of_le below (Nat.sub_le ..))
    by_contra unknown
    refine cannot ⟨.ofNat number, ?_, ?_, ?_⟩
    · rw [UInt64.le_iff_toNat_le, word]
      exact start
    · rw [UInt64.lt_iff_toNat_lt, word]
      exact below
    · rw [numberedId, word]
      exact Bool.eq_false_iff.mpr unknown
  have few := passed_le_taken passed
  have fewer := registry.card_taken_le stem
  omega

/-- Where all seen ids have room below the largest word, rounds end after at most one more than
there are seen ids with the stem and a number from the next one on. What they give, and
`fresh` with them, is the id with the least number from the next one on whose id was not seen;
the count goes on behind that number, and this id alone is seen besides. -/
theorem fresh_within_rounds {registry : Registry}
    (room : registry.next.toNat + registry.known.card + 1 ≤ 2 ^ 64 - 1) (stem : String) :
    (∀ bound, (registry.taken stem).card + 1 ≤ bound →
      registry.rounds stem bound = some (registry.fresh stem)) ∧
    ∃ number : Nat,
      IsLeast {n | registry.next.toNat ≤ n ∧ stem ++ "-" ++ toString n ∉ registry.known} number ∧
      (registry.fresh stem).1 = stem ++ "-" ++ toString number ∧
      (registry.fresh stem).2.next.toNat = number + 1 ∧
      (registry.fresh stem).2.known = insert (stem ++ "-" ++ toString number) registry.known := by
  obtain ⟨number, reached, below, unknown, passed, fresh⟩ := fresh_eq (canNumber_of_room room stem)
  have few : number.toNat - registry.next.toNat ≤ (registry.taken stem).card :=
    passed_le_taken passed
  rw [fresh]
  refine ⟨?_, number.toNat, ⟨⟨UInt64.le_iff_toNat_le.mp reached, ?_⟩, ?_⟩, rfl, ?_, ?_⟩
  · rintro (_ | tries) enough
    · omega
    have found : registry.freeNumber stem tries registry.next = number :=
      freeNumber_eq reached unknown passed (by omega)
    have ended := rounds_succ registry stem tries registry.next
    simp only [found, unknown] at ended
    exact ended
  · rw [mem_known]
    exact Bool.eq_false_iff.mp unknown
  · rintro other ⟨start, free⟩
    by_contra before
    exact free (mem_known.mpr (passed other start (Nat.lt_of_not_le before)))
  · exact toNat_succ (Nat.succ_lt_succ (UInt64.lt_iff_toNat_lt.mp below))
  · exact List.toFinset_cons ..

/-- A registry that has seen ids with the numbers two, three and six behind `edge-1`, and some
that only look like it: the stem alone, one with a zero in front of its number, one with a
number below the next one, and one with a number behind the second. -/
def crowded : Registry where
  seen := ["edge-1", "edge-1-2", "edge-1-04", "edge-1-3", "edge-1-1", "edge-1-2-4", "edge-1-6"]
  next := 2

/-- Three ids are taken, so that four rounds are enough; two are not. The numbers of the ids that
only look like it stay free. -/
theorem crowded_within_four_rounds :
    crowded.next.toNat + crowded.known.card + 1 ≤ 2 ^ 64 - 1 ∧
    (crowded.taken "edge-1").card = 3 ∧
    crowded.rounds "edge-1" 2 = none ∧
    crowded.rounds "edge-1" 4 = some (crowded.fresh "edge-1") ∧
    IsLeast {n | 2 ≤ n ∧ "edge-1" ++ "-" ++ toString n ∉ crowded.known} 4 ∧
    (crowded.fresh "edge-1").1 = "edge-1-4" ∧
    (crowded.fresh "edge-1").2.next.toNat = 5 ∧
    (crowded.fresh "edge-1").2.known = insert "edge-1-4" crowded.known := by
  have room : crowded.next.toNat + crowded.known.card + 1 ≤ 2 ^ 64 - 1 := by decide +kernel
  have three : (crowded.taken "edge-1").card = 3 := by decide +kernel
  have unfinished : crowded.rounds "edge-1" 2 = none := by decide +kernel
  have four : (crowded.fresh "edge-1").1 = "edge-1" ++ "-" ++ toString 4 := by decide +kernel
  obtain ⟨ended, number, least, given, counted, remembered⟩ :=
    fresh_within_rounds room "edge-1"
  obtain rfl : number = 4 := number_inj (given.symm.trans four)
  have finished := ended 4 (by rw [three])
  exact ⟨room, three, unfinished, finished, least, given, counted, remembered⟩

end Registry

end CloudDiagram
