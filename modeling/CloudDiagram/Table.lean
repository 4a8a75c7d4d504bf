/-!
# Tables keyed by text

Entries stand in increasing key order, by code point, and no key stands twice.
Inserting under a present key replaces its value. The list operations come first,
since object members of a JSON value are kept in the same order without carrying
the proof; a table is such a list together with its ordering.
-/

namespace CloudDiagram

namespace Entries

variable {α β : Type}

/-- Keys strictly increase along the entries, so no key stands twice and equal
tables are equal lists. -/
def Ordered (entries : List (String × α)) : Prop :=
  entries.Pairwise fun earlier later => earlier.1 < later.1

instance (entries : List (String × α)) : Decidable (Ordered entries) :=
  inferInstanceAs (Decidable (List.Pairwise _ _))

/-- Put an entry at its place; a present key gets the new value. The search for the
place goes from the front and relies on the entries being in order. -/
def insert (key : String) (value : α) : List (String × α) → List (String × α)
  | [] => [(key, value)]
  | (other, held) :: rest =>
    if key < other then (key, value) :: (other, held) :: rest
    else if other < key then (other, held) :: insert key value rest
    else (key, value) :: rest

/-- The value of the first entry under a key. In ordered entries there is only one.
-/
def get? (entries : List (String × α)) (key : String) : Option α :=
  (entries.find? fun entry => entry.1 = key).map Prod.snd

/-- Insert one entry after another; a later entry replaces an earlier one of its
key. This is how the members of a text become a table, in which its order is lost.
-/
def ofList (entries : List (String × α)) : List (String × α) :=
  entries.foldl (fun table entry => insert entry.1 entry.2 table) []

/-- The keys after an insertion are the inserted one and those before it, so what
holds of all of these holds of the keys of the result. -/
theorem mem_keys_insert {key : String} {value : α} {entries : List (String × α)} {found : String}
    (member : found ∈ (insert key value entries).map Prod.fst) :
    found = key ∨ found ∈ entries.map Prod.fst := by
  induction entries with
  | nil => simp_all [insert]
  | cons head rest inductionHypothesis =>
    obtain ⟨other, held⟩ := head
    simp only [insert] at member
    split at member
    · simpa using member
    · split at member
      · simp only [List.map_cons, List.mem_cons] at member ⊢
        rcases member with same | member
        · exact Or.inr (Or.inl same)
        · rcases inductionHypothesis member with same | member
          · exact Or.inl same
          · exact Or.inr (Or.inr member)
      · simp only [List.map_cons, List.mem_cons] at member ⊢
        rcases member with same | member
        · exact Or.inl same
        · exact Or.inr (Or.inr member)

/-- Insertion keeps the keys increasing. By induction on the entries, with one case
for each answer to the question where the new key stands. -/
theorem Ordered.insert {entries : List (String × α)} (ordered : Ordered entries)
    (key : String) (value : α) : Ordered (Entries.insert key value entries) := by
  induction entries with
  | nil => simp [Entries.insert, Ordered]
  | cons head rest inductionHypothesis =>
    obtain ⟨other, held⟩ := head
    obtain ⟨headFirst, restOrdered⟩ := List.pairwise_cons.mp ordered
    simp only [Entries.insert]
    split
    · rename_i before
      refine List.pairwise_cons.mpr ⟨?_, ordered⟩
      intro entry member
      rcases List.mem_cons.mp member with rfl | member
      · exact before
      · exact String.lt_trans before (headFirst entry member)
    · rename_i notBefore
      split
      · rename_i after
        refine List.pairwise_cons.mpr ⟨?_, inductionHypothesis restOrdered⟩
        intro entry member
        have keyed : entry.1 ∈ (Entries.insert key value rest).map Prod.fst :=
          List.mem_map_of_mem member
        rcases mem_keys_insert keyed with same | present
        · exact same ▸ after
        · obtain ⟨held, present, same⟩ := List.mem_map.mp present
          exact same ▸ headFirst held present
      · rename_i notAfter
        have same : key = other :=
          String.le_antisymm (String.not_lt.mp notAfter) (String.not_lt.mp notBefore)
        subst same
        exact List.pairwise_cons.mpr ⟨headFirst, restOrdered⟩

/-- Entries inserted one by one are ordered, whatever order they came in, also where
a key came several times. -/
theorem ofList_ordered (entries : List (String × α)) : Ordered (ofList entries) := by
  have fold (rest table : List (String × α)) (ordered : Ordered table) :
      Ordered (rest.foldl (fun table entry => insert entry.1 entry.2 table) table) := by
    induction rest generalizing table with
    | nil => exact ordered
    | cons entry rest inductionHypothesis =>
      exact inductionHypothesis _ (ordered.insert entry.1 entry.2)
  exact fold entries [] List.Pairwise.nil

/-- After an insertion the key has the new value, and every other key what it had.
Nothing is asked of the order, since the first entry of a key is the one that
counts. -/
theorem get?_insert (entries : List (String × α)) (key : String) (value : α) (sought : String) :
    get? (insert key value entries) sought =
      if sought = key then some value else get? entries sought := by
  induction entries with
  | nil =>
    by_cases same : sought = key
    · simp [insert, get?, same]
    · have different : ¬ key = sought := fun equal => same equal.symm
      simp [insert, get?, same, different]
  | cons head rest inductionHypothesis =>
    obtain ⟨other, held⟩ := head
    simp only [get?] at inductionHypothesis
    simp only [insert]
    split
    · by_cases same : sought = key
      · simp [get?, same]
      · have different : ¬ key = sought := fun equal => same equal.symm
        simp [get?, List.find?_cons, same, different]
    · rename_i notBefore
      split
      · rename_i after
        by_cases found : other = sought
        · have different : ¬ sought = key := by
            intro same
            subst found same
            exact String.lt_irrefl _ after
          simp [get?, found, different]
        · simp [get?, found, inductionHypothesis]
      · rename_i notAfter
        have equal : key = other :=
          String.le_antisymm (String.not_lt.mp notAfter) (String.not_lt.mp notBefore)
        subst equal
        by_cases same : sought = key
        · simp [get?, same]
        · have different : ¬ key = sought := fun equal => same equal.symm
          simp [get?, same, different]

/-- A key above all others is inserted at the end. So a list that is in order
already is built up from front to back. -/
theorem insert_of_above {entries : List (String × α)} {key : String} (value : α)
    (above : ∀ entry ∈ entries, entry.1 < key) :
    insert key value entries = entries ++ [(key, value)] := by
  induction entries with
  | nil => rfl
  | cons head rest inductionHypothesis =>
    obtain ⟨other, held⟩ := head
    have headBelow : other < key := above (other, held) List.mem_cons_self
    have notBefore : ¬ key < other := fun before =>
      String.lt_irrefl _ (String.lt_trans before headBelow)
    have restBelow : ∀ entry ∈ rest, entry.1 < key := fun entry member =>
      above entry (List.mem_cons_of_mem _ member)
    simp [insert, notBefore, headBelow, inductionHypothesis restBelow]

/-- Entries that are ordered already are kept as they are. What is written from a
table is read back as it by this. -/
theorem ofList_of_ordered {entries : List (String × α)} (ordered : Ordered entries) :
    ofList entries = entries := by
  have fold (rest table : List (String × α)) (joined : Ordered (table ++ rest)) :
      rest.foldl (fun table entry => insert entry.1 entry.2 table) table = table ++ rest := by
    induction rest generalizing table with
    | nil => simp
    | cons entry rest inductionHypothesis =>
      have above : ∀ earlier ∈ table, earlier.1 < entry.1 := fun earlier member =>
        (List.pairwise_append.mp joined).2.2 earlier member entry List.mem_cons_self
      have step : insert entry.1 entry.2 table = table ++ [entry] := insert_of_above _ above
      have joinedNext : Ordered ((table ++ [entry]) ++ rest) := by simpa using joined
      rw [List.foldl_cons, step, inductionHypothesis _ joinedNext, List.append_assoc]
      rfl
  exact fold entries [] ordered

end Entries

/-- A finite map from text, in key order. The order is part of the structure, so
that tables with the same values under the same keys are equal. -/
structure Table (α : Type) where
  entries : List (String × α)
  ordered : Entries.Ordered entries
deriving DecidableEq

namespace Table

variable {α : Type}

/-- The table without entries, which is in order. -/
def empty : Table α := ⟨[], List.Pairwise.nil⟩

instance : Inhabited (Table α) := ⟨empty⟩

/-- Put a value under a key, replacing a value held there. The order is kept, so the
result is a table again. -/
def insert (table : Table α) (key : String) (value : α) : Table α :=
  ⟨Entries.insert key value table.entries, table.ordered.insert key value⟩

/-- The table of a list of entries; of two entries of one key the later one stays.
-/
def ofList (entries : List (String × α)) : Table α :=
  ⟨Entries.ofList entries, Entries.ofList_ordered entries⟩

/-- The entries in key order, which is the order in which they are written. -/
def toList (table : Table α) : List (String × α) := table.entries

/-- The value held under a key, if there is one. -/
def get? (table : Table α) (key : String) : Option α := Entries.get? table.entries key

/-- The entries of a table make that table again, so nothing is lost where a table
is written as a list and read back. -/
theorem ofList_toList (table : Table α) : ofList table.toList = table := by
  obtain ⟨entries, ordered⟩ := table
  simp [ofList, toList, Entries.ofList_of_ordered ordered]

end Table

end CloudDiagram
