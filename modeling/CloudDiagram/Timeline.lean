/-!
# Timelines

A timeline is a list of entries, oldest first, and a cursor on the entry that is
current. Recording forgets what stands after the cursor, appends an entry and
moves onto it; a limit on the number of entries is kept by forgetting the oldest.
There is always an entry, so even the smallest limit keeps one.
-/

namespace CloudDiagram

/-- Entries, the position of the current one, and the largest number of entries. The
cursor is on an entry in every timeline that is started and used, which is shown and
not required. -/
structure Timeline (α : Type) where
  entries : List α
  cursor : Nat
  limit : Option Nat
deriving DecidableEq, Repr

namespace Timeline

variable {α : Type}

/-- The timeline whose only entry is the given one. A limit never takes the only
entry, so it does not matter here. -/
def start (first : α) (limit : Option Nat) : Timeline α := ⟨[first], 0, limit⟩

/-- The newest entries within a limit, and the last one in any case. A limit of zero
counts as one, since a timeline without an entry has no current one. -/
def newest (limit : Option Nat) (entries : List α) : List α :=
  match limit with
  | some limit => entries.drop (entries.length - max 1 limit)
  | none => entries

/-- Forget what stands after the cursor, append an entry, and move onto it. The
limit is applied last, so it is the oldest entries that make place for the new one.
-/
def record (timeline : Timeline α) (entry : α) : Timeline α :=
  let entries := newest timeline.limit (timeline.entries.take (timeline.cursor + 1) ++ [entry])
  { timeline with entries, cursor := entries.length - 1 }

/-- Whether there is an entry before the current one. An entry that the limit took
is not there any more, so this may turn to `false` sooner under a limit. -/
def canUndo (timeline : Timeline α) : Bool := 0 < timeline.cursor

/-- Whether there is an entry after the current one. It is never so after recording.
-/
def canRedo (timeline : Timeline α) : Bool := timeline.cursor + 1 < timeline.entries.length

/-- The entry before the current one, and the timeline with the cursor on it;
nothing if the current one is the oldest. The entries stay, so one can come back. -/
def undo? (timeline : Timeline α) : Option (α × Timeline α) :=
  if timeline.canUndo then
    let cursor := timeline.cursor - 1
    (timeline.entries[cursor]?).map (·, { timeline with cursor })
  else none

/-- The entry after the current one, and the timeline with the cursor on it; nothing
if the current one is the newest. -/
def redo? (timeline : Timeline α) : Option (α × Timeline α) :=
  if timeline.canRedo then
    let cursor := timeline.cursor + 1
    (timeline.entries[cursor]?).map (·, { timeline with cursor })
  else none

/-- The number of entries, those after the cursor included. -/
def length (timeline : Timeline α) : Nat := timeline.entries.length

/-- Whether there is no entry, which is never so in a timeline that was started with
one. -/
def isEmpty (timeline : Timeline α) : Bool := timeline.entries.isEmpty

/-- The cursor is on an entry. This is the invariant of timelines: a new one has it,
and recording and moving keep it. -/
def OnEntry (timeline : Timeline α) : Prop := timeline.cursor < timeline.entries.length

/-- No limit forgets the last entry, as the smallest one allows an entry. So there
is a current entry after recording. -/
theorem newest_ne_nil {limit : Option Nat} {entries : List α} (nonempty : entries ≠ []) :
    newest limit entries ≠ [] := by
  have positive : 0 < entries.length := List.length_pos_iff.mpr nonempty
  cases limit with
  | none => exact nonempty
  | some limit =>
    intro empty
    have length : (entries.drop (entries.length - max 1 limit)).length = 0 := by
      rw [show entries.drop (entries.length - max 1 limit) = [] from empty]
      rfl
    rw [List.length_drop] at length
    omega

/-- As many of the newest entries as the limit allows are kept. It is stated for any
end of the list that is short enough, so that what is known of the newest entries
can be carried along. -/
theorem suffix_newest {limit : Option Nat} {entries kept : List α} (newer : kept <:+ entries)
    (fits : ∀ most, limit = some most → kept.length ≤ max 1 most) :
    kept <:+ newest limit entries := by
  cases limit with
  | none => exact newer
  | some most =>
    have short : kept.length ≤ max 1 most := fits most rfl
    obtain ⟨older, rfl⟩ := newer
    rw [newest, List.length_append, List.drop_append_of_le_length (by omega)]
    exact List.suffix_append _ kept

/-- Which entries are kept does not depend on what they are, only on how many there
are. So entries may be replaced by what they show before or after the limit is
applied. -/
theorem newest_map {β : Type} (limit : Option Nat) (entries : List α) (view : α → β) :
    newest limit (entries.map view) = (newest limit entries).map view := by
  cases limit <;> simp [newest, List.map_drop]

/-- Recording moves onto an entry, wherever the cursor was: it is set to the last
one, and there is a last one. -/
theorem record_onEntry (timeline : Timeline α) (entry : α) : (timeline.record entry).OnEntry := by
  have nonempty :
      newest timeline.limit (timeline.entries.take (timeline.cursor + 1) ++ [entry]) ≠ [] :=
    newest_ne_nil (by simp)
  have positive := List.length_pos_iff.mpr nonempty
  simp only [OnEntry, record]
  omega

/-- The entry that is recorded is the current one. It is the newest, so the limit
does not take it. -/
theorem current_record (timeline : Timeline α) (entry : α) :
    (timeline.record entry).entries[(timeline.record entry).cursor]? = some entry := by
  have last : [entry] <:+
      newest timeline.limit (timeline.entries.take (timeline.cursor + 1) ++ [entry]) :=
    suffix_newest (List.suffix_append _ _) (fun most _ => Nat.le_max_left 1 most)
  obtain ⟨older, joined⟩ := last
  simp [record, ← joined]

/-- Recording keeps the limit. Nothing else ever changes it. -/
@[simp]
theorem record_limit (timeline : Timeline α) (entry : α) :
    (timeline.record entry).limit = timeline.limit := rfl

/-- Recording leaves nothing to redo, since the cursor is on the last entry then. -/
theorem canRedo_record (timeline : Timeline α) (entry : α) :
    (timeline.record entry).canRedo = false := by
  have onEntry : (timeline.record entry).OnEntry := record_onEntry timeline entry
  have last : (timeline.record entry).cursor = (timeline.record entry).entries.length - 1 := rfl
  simp only [OnEntry] at onEntry
  exact decide_eq_false (by omega)

/-- From an entry one can go back exactly when there is an entry before it. That the
cursor is on an entry is needed for the one before it to be found. -/
theorem isSome_undo? {timeline : Timeline α} (onEntry : timeline.OnEntry) :
    timeline.undo?.isSome = timeline.canUndo := by
  by_cases before : timeline.canUndo = true
  · have inside : timeline.cursor - 1 < timeline.entries.length :=
      Nat.lt_of_le_of_lt (Nat.sub_le _ _) onEntry
    simp [undo?, before, inside]
  · simp [undo?, before]

/-- One can go forward exactly when there is an entry after the current one. Here
nothing has to be known of the cursor. -/
theorem isSome_redo? (timeline : Timeline α) : timeline.redo?.isSome = timeline.canRedo := by
  by_cases after : timeline.canRedo = true
  · have inside : timeline.cursor + 1 < timeline.entries.length := of_decide_eq_true after
    simp [redo?, after, inside]
  · simp [redo?, after]

/-- Going back from an entry leads onto the entry that is given. The cursor is the
only thing that changes, and goes back by one. -/
theorem undo?_eq_some {timeline moved : Timeline α} {entry : α}
    (undone : timeline.undo? = some (entry, moved)) :
    moved.entries = timeline.entries ∧ moved.limit = timeline.limit ∧
      moved.cursor + 1 = timeline.cursor ∧ moved.entries[moved.cursor]? = some entry := by
  by_cases before : timeline.canUndo = true
  · have positive : 0 < timeline.cursor := of_decide_eq_true before
    simp only [undo?, before, if_true] at undone
    obtain ⟨found, present, same⟩ := Option.map_eq_some_iff.mp undone
    obtain ⟨rfl, rfl⟩ := Prod.mk.inj same
    exact ⟨rfl, rfl, Nat.sub_add_cancel positive, present⟩
  · simp [undo?, before] at undone

/-- Going forward from an entry leads onto the entry that is given. The cursor is
the only thing that changes, and goes forward by one. -/
theorem redo?_eq_some {timeline moved : Timeline α} {entry : α}
    (redone : timeline.redo? = some (entry, moved)) :
    moved.entries = timeline.entries ∧ moved.limit = timeline.limit ∧
      moved.cursor = timeline.cursor + 1 ∧ moved.entries[moved.cursor]? = some entry := by
  by_cases after : timeline.canRedo = true
  · simp only [redo?, after, if_true] at redone
    obtain ⟨found, present, same⟩ := Option.map_eq_some_iff.mp redone
    obtain ⟨rfl, rfl⟩ := Prod.mk.inj same
    exact ⟨rfl, rfl, rfl, present⟩
  · simp [redo?, after] at redone

end Timeline

end CloudDiagram
