import CloudDiagram.Registry
import Mathlib.Data.Nat.Find
import Mathlib.Order.Interval.Finset.Nat

/-!
# New ids get the first free number

A new id is its stem with a number, and the number can be read back from it, whatever the
stem holds: the digits behind the last dash are those of the number. So different numbers
make different ids, and among more numbers than there are seen ids one is free for a stem.

The count of numbers goes up to the largest word and would then start over. As long as
some number below the largest is free, the first free one is found before that, since the
numbers passed over on the way are those of different seen ids, of which there are no more
than tries. The count then goes on behind the number that was taken.
-/

namespace CloudDiagram

/-- The number behind a stem and a dash is read back. The digits of a number hold no
dash, so the last dash is the one in front of them. -/
theorem idNumber?_append (stem : String) (number : Nat) :
    idNumber? (stem ++ "-" ++ toString number) = some (toString number) := by
  have digits : (toString number).toList = Nat.toDigits 10 number := by simp
  have isDigit (c : Char) (member : c ∈ Nat.toDigits 10 number) : c.isDigit = true :=
    Nat.isDigit_of_mem_toDigits (by decide) (by decide) member
  have noDash : ∀ c ∈ (Nat.toDigits 10 number).reverse, decide (c ≠ '-') = true := by
    intro c member
    have digit := isDigit c (List.mem_reverse.mp member)
    refine decide_eq_true ?_
    rintro rfl
    revert digit
    decide
  have behind : ((stem ++ "-" ++ toString number).toList.reverse.takeWhile (· ≠ '-')).reverse =
      Nat.toDigits 10 number := by
    have letters : (stem ++ "-" ++ toString number).toList.reverse =
        (Nat.toDigits 10 number).reverse ++ '-' :: stem.toList.reverse := by
      simp
    rw [letters, List.takeWhile_append_of_pos noDash]
    simp
  have dash : (stem ++ "-" ++ toString number).toList.contains '-' = true := by simp
  have nonempty : Nat.toDigits 10 number ≠ [] := Nat.toDigits_ne_nil
  have all : (Nat.toDigits 10 number).all Char.isDigit = true := List.all_eq_true.mpr isDigit
  simp only [idNumber?, behind, dash, nonempty, all, ne_eq, not_false_eq_true, and_self, if_true]
  rw [← digits, String.ofList_toList]

/-- The number of an id that was made up is read back, whatever its stem is. -/
theorem idNumber?_numberedId (stem : String) (number : UInt64) :
    idNumber? (numberedId stem number) = some (toString number.toNat) :=
  idNumber?_append stem number.toNat

/-- Different numbers make different texts, whatever the stems are. The stems may
differ, hold dashes and end in digits. -/
theorem number_inj {stem stem' : String} {number other : Nat}
    (same : stem ++ "-" ++ toString number = stem' ++ "-" ++ toString other) :
    number = other := by
  have digits := congrArg idNumber? same
  rw [idNumber?_append, idNumber?_append] at digits
  have letters := congrArg String.toList (Option.some.inj digits)
  have values := congrArg (fun chars => Nat.ofDigitChars 10 chars 0) letters
  simpa using values

/-- Different numbers make different ids, whatever the stems are. -/
theorem numberedId_inj {stem stem' : String} {number other : UInt64}
    (same : numberedId stem number = numberedId stem' other) : number = other :=
  UInt64.toNat_inj.mp (number_inj same)

/-- An id is the stem with a number that is not below the first one. The number is
not bounded by a word here. -/
def Numbered (stem : String) (first : Nat) (id : String) : Prop :=
  ∃ number, first ≤ number ∧ id = stem ++ "-" ++ toString number

/-- Whether an id is numbered is decided with the digits behind its last dash. They may have
zeros in front, which no number has. -/
theorem numbered_iff {stem : String} {first : Nat} {id : String} :
    Numbered stem first id ↔ ∃ digits ∈ idNumber? id,
      first ≤ Nat.ofDigitChars 10 digits.toList 0 ∧
        id = stem ++ "-" ++ toString (Nat.ofDigitChars 10 digits.toList 0) := by
  constructor
  · rintro ⟨number, start, rfl⟩
    have value : Nat.ofDigitChars 10 (toString number).toList 0 = number := by simp
    refine ⟨toString number, idNumber?_append stem number, ?_⟩
    rw [value]
    exact ⟨start, rfl⟩
  · rintro ⟨digits, -, start, same⟩
    exact ⟨_, start, same⟩

instance (stem : String) (first : Nat) (id : String) : Decidable (Numbered stem first id) :=
  decidable_of_iff _ numbered_iff.symm

/-- The count goes on as long as it does not start over. -/
theorem toNat_succ {number : UInt64} (room : number.toNat + 1 < 2 ^ 64) :
    (number + 1).toNat = number.toNat + 1 := by
  rw [UInt64.toNat_add]
  exact Nat.mod_eq_of_lt room

namespace Registry

/-- A registry can number a stem if some number from the next one on is free and is not
the largest, so that the count goes on behind it without starting over. -/
def CanNumber (registry : Registry) (stem : String) : Prop :=
  ∃ number, registry.next ≤ number ∧ number < 18446744073709551615 ∧
    registry.knows (numberedId stem number) = false

/-- The ids of a stem with the numbers from the first one on and below the last one
were seen. A search from the first number on passes over all of them. -/
def Passes (registry : Registry) (stem : String) (first last : Nat) : Prop :=
  ∀ number, first ≤ number → number < last →
    registry.knows (stem ++ "-" ++ toString number) = true

/-- The set of the seen ids. The list of them may be in any order; how many there
are does not depend on it. -/
def known (registry : Registry) : Finset String := registry.seen.toFinset

/-- The seen ids with a stem and a number from the next one on. Only these can be in
the way of a new id. -/
def taken (registry : Registry) (stem : String) : Finset String :=
  {id ∈ registry.known | Numbered stem registry.next.toNat id}

/-- Where a number is free, there is a first one from the next number on, and all
numbers before it are passed. -/
theorem CanNumber.first {registry : Registry} {stem : String} (can : registry.CanNumber stem) :
    ∃ number, registry.next ≤ number ∧ number < 18446744073709551615 ∧
      registry.knows (numberedId stem number) = false ∧
      registry.Passes stem registry.next.toNat number.toNat := by
  obtain ⟨free, reached, below, unknown⟩ := can
  have someFree : ∃ number, registry.next.toNat ≤ number ∧
      registry.knows (stem ++ "-" ++ toString number) = false :=
    ⟨free.toNat, UInt64.le_iff_toNat_le.mp reached, unknown⟩
  obtain ⟨least, unknownLeast⟩ := Nat.find_spec someFree
  have atMost : Nat.find someFree ≤ free.toNat :=
    Nat.find_min' someFree ⟨UInt64.le_iff_toNat_le.mp reached, unknown⟩
  have inRange : Nat.find someFree < 2 ^ 64 := Nat.lt_of_le_of_lt atMost free.toNat_lt
  have word : (UInt64.ofNat (Nat.find someFree)).toNat = Nat.find someFree :=
    UInt64.toNat_ofNat_of_lt inRange
  refine ⟨.ofNat (Nat.find someFree), ?_, ?_, ?_, ?_⟩
  · rw [UInt64.le_iff_toNat_le, word]
    exact least
  · rw [UInt64.lt_iff_toNat_lt, word]
    exact Nat.lt_of_le_of_lt atMost (UInt64.lt_iff_toNat_lt.mp below)
  · rw [numberedId, word]
    exact unknownLeast
  · rw [word]
    intro earlier start before
    by_contra free
    exact Nat.find_min someFree before ⟨start, Bool.eq_false_iff.mpr free⟩

/-- An id is in the set of the seen ones if it is known. -/
theorem mem_known {registry : Registry} {id : String} :
    id ∈ registry.known ↔ registry.knows id = true := by
  simp [known, knows]

/-- The ids that are taken are among the seen ones, so there are no more of them. -/
theorem card_taken_le (registry : Registry) (stem : String) :
    (registry.taken stem).card ≤ registry.known.card :=
  Finset.card_filter_le ..

/-- Numbers that are all passed over are no more than the ids that are taken, since different
numbers make different ids. -/
theorem passed_le_taken {registry : Registry} {stem : String} {last : Nat}
    (passed : registry.Passes stem registry.next.toNat last) :
    last - registry.next.toNat ≤ (registry.taken stem).card := by
  have injective : Function.Injective fun number : Nat => stem ++ "-" ++ toString number :=
    fun _ _ => number_inj
  have among : (Finset.Ico registry.next.toNat last).image
      (fun number => stem ++ "-" ++ toString number) ⊆ registry.taken stem := by
    intro id member
    obtain ⟨number, inside, rfl⟩ := Finset.mem_image.mp member
    obtain ⟨start, before⟩ := Finset.mem_Ico.mp inside
    exact Finset.mem_filter.mpr ⟨mem_known.mpr (passed number start before), number, start, rfl⟩
  calc last - registry.next.toNat
      = (Finset.Ico registry.next.toNat last).card := (Nat.card_Ico ..).symm
    _ = ((Finset.Ico registry.next.toNat last).image
          fun number => stem ++ "-" ++ toString number).card :=
        (Finset.card_image_of_injective _ injective).symm
    _ ≤ (registry.taken stem).card := Finset.card_le_card among

/-- With enough tries the search ends at the first free number. The induction is on
the tries, and with each of them the search comes one number closer. -/
theorem freeNumber_eq {registry : Registry} {stem : String} {number free : UInt64} {tries : Nat}
    (reached : number ≤ free) (unknown : registry.knows (numberedId stem free) = false)
    (passed : registry.Passes stem number.toNat free.toNat)
    (enough : free.toNat - number.toNat ≤ tries) :
    registry.freeNumber stem tries number = free := by
  induction tries generalizing number with
  | zero =>
    rw [freeNumber]
    refine UInt64.toNat_inj.mp ?_
    have order := UInt64.le_iff_toNat_le.mp reached
    omega
  | succ tries inductionHypothesis =>
    have order := UInt64.le_iff_toNat_le.mp reached
    rw [freeNumber]
    split
    · rename_i known
      have different : number ≠ free := by
        rintro rfl
        rw [unknown] at known
        cases known
      have distinct : number.toNat ≠ free.toNat := mt UInt64.toNat_inj.mp different
      have bound := free.toNat_lt
      -- the next number does not start over, as it is at most the free one
      have next : (number + 1).toNat = number.toNat + 1 := toNat_succ (by omega)
      refine inductionHypothesis ?_ ?_ ?_
      · rw [UInt64.le_iff_toNat_le, next]
        omega
      · rw [next]
        intro earlier start before
        exact passed earlier (Nat.le_of_succ_le start) before
      · rw [next]
        omega
    · rename_i notKnown
      by_contra different
      have distinct : number.toNat ≠ free.toNat := mt UInt64.toNat_inj.mp different
      exact notKnown (passed number.toNat (Nat.le_refl _) (by omega))

/-- A new id has the first free number from the next one on. It is remembered, and
the count goes on behind its number.

Proof: the numbers that are passed over belong to different seen ids, so there are
no more of them than tries. -/
theorem fresh_eq {registry : Registry} {stem : String} (can : registry.CanNumber stem) :
    ∃ number, registry.next ≤ number ∧ number < 18446744073709551615 ∧
      registry.knows (numberedId stem number) = false ∧
      registry.Passes stem registry.next.toNat number.toNat ∧
      registry.fresh stem = (numberedId stem number,
        { seen := numberedId stem number :: registry.seen, next := number + 1 }) := by
  obtain ⟨number, reached, below, unknown, passed⟩ := can.first
  have enough : number.toNat - registry.next.toNat ≤ registry.seen.length :=
    calc number.toNat - registry.next.toNat
        ≤ (registry.taken stem).card := passed_le_taken passed
      _ ≤ registry.known.card := registry.card_taken_le stem
      _ ≤ registry.seen.length := List.toFinset_card_le _
  have found : registry.freeNumber stem registry.seen.length registry.next = number :=
    freeNumber_eq reached unknown passed enough
  refine ⟨number, reached, below, unknown, passed, ?_⟩
  simp [fresh, found, learn, unknown]

end Registry

end CloudDiagram
