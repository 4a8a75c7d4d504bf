import CloudDiagram.Diagram.Wire
import CloudDiagram.Proofs.Json.Meeting
import CloudDiagram.Proofs.Session.Operations

/-!
# What a registry learns from a text

Nodes, connections and diagrams are read from texts, and the registry remembers the ids that the
reading meets. These are the ids of the nodes and connections that were read, with both ends of a
connection, and nothing else of the text: names, tags, payloads and members that no record knows
are never remembered, so none of them keeps an id from being made up later.

A text that turns out faulty has taught the registry the ids in front of the fault. Each of them
stood where a node or a connection begins that the reading came to, in a field for an id.
-/

namespace CloudDiagram

open Json

/-- Where an id is due, a string shows it. The string is the id, and reading goes on
behind its closing quote. -/
def showsId : Showing := fun _ text id behind => scanText text = .ok (id, behind)

/-- A node shows its id, and nothing else that it holds. -/
def Node.shows : Showing := Node.shape.shows [("id", showsId)]

/-- A connection shows its id and those of its ends. -/
def Connection.shows : Showing :=
  Connection.shape.shows [("id", showsId), ("source", showsId), ("target", showsId)]

/-- A diagram shows what its nodes and its connections show. -/
def Diagram.shows : Showing :=
  Diagram.shape.shows [
    ("nodes", showsInList Node.shape.read Node.shows),
    ("edges", showsInList Connection.shape.read Connection.shows)]

/-- The ids in a connection: its own and those of its ends. -/
def Connection.ids (edge : Connection) : List String := [edge.id, edge.source, edge.target]

/-- An id is met as the string that it is read as. It is met even if the text turns
out faulty behind it. -/
theorem meets_id (depth : Nat) (text : List Char) :
    (readId depth text).Meets text [] (fun id => [id]) (showsId depth text) := by
  have forward : Forward Prod.snd text (scanText text) := forward_scanWanted ..
  cases scanned : scanText text with
  | error fault =>
    rw [scanned] at forward
    rw [readId, scanned]
    exact .fault forward
  | ok found =>
    obtain ⟨id, rest⟩ := found
    rw [scanned] at forward
    have met : readId depth text = ⟨[id], .ok (id, rest)⟩ := by
      rw [readId, scanned]
      rfl
    rw [met]
    refine ⟨forward, ?_, ?_⟩
    · intro other same
      obtain rfl := List.mem_singleton.mp same
      exact ⟨rest, scanned, forward, List.suffix_rfl⟩
    · intro other behind read
      obtain ⟨rfl, rfl⟩ := Prod.mk.inj (Except.ok.inj read)
      simp

/-- A double is read without meeting an id. -/
theorem meets_double (_depth : Nat) (text : List Char) :
    (Reading.ofExcept (scanDouble text)).Meets text [] (fun _ => []) fun _ _ => False :=
  .ofExcept (forward_scanWanted ..) fun _ _ => Iff.rfl

/-- A position has no ids, and none of its fields shows one. -/
theorem Position.meetsIds : shape.MeetsIds (fun _ => []) (fun _ => []) [] where
  blank := rfl
  unfilled := by simp [shape, Slot.ofReader]
  each := by
    simp only [shape, List.forall_mem_cons]
    exact ⟨Slot.meetsIds_without_ids meets_double fun _ _ => rfl,
      Slot.meetsIds_without_ids meets_double fun _ _ => rfl, List.forall_mem_nil _⟩
  apart := by
    simp only [shape, List.pairwise_cons, List.forall_mem_cons]
    exact ⟨⟨Slot.leaves_ofReader fun _ _ => rfl, List.forall_mem_nil _⟩, List.forall_mem_nil _, .nil⟩
  complete _ _ _ := rfl

/-- A position is read without meeting an id, as both of its coordinates are. -/
theorem Position.meets_read (depth : Nat) (text : List Char) :
    (shape.read depth text).Meets text [] (fun _ => []) fun _ _ => False :=
  (meetsIds.read depth text).mono fun _ _ shown => Shape.not_shows_nil shown

/-- The id of a node is the only one that its fields meet. Its position and its
payload meet none, whatever they hold. -/
theorem Node.meetsIds : shape.MeetsIds (fun draft => draft.id.toList) (fun node => [node.id])
    [("id", showsId)] where
  blank := rfl
  unfilled := by simp [shape, Slot.ofReader]
  each := by
    simp only [shape, List.forall_mem_cons]
    refine ⟨Slot.meetsIds_ofReader meets_id (by simp) ?_,
      Slot.meetsIds_without_ids Position.meets_read fun _ _ => rfl,
      Slot.meetsIds_without_ids meets_value fun _ _ => rfl, List.forall_mem_nil _⟩
    intro draft value empty id
    simp [empty, eq_comm]
  apart := by
    simp only [shape, List.pairwise_cons, List.forall_mem_cons]
    exact ⟨⟨Slot.leaves_ofReader fun _ _ => rfl, Slot.leaves_ofReader fun _ _ => rfl, List.forall_mem_nil _⟩,
      ⟨Slot.leaves_ofReader fun _ _ => rfl, List.forall_mem_nil _⟩, List.forall_mem_nil _, .nil⟩
  complete draft node made := by
    rcases draft with ⟨_ | id, position, payload⟩
    · cases made
    · obtain rfl := Except.ok.inj made
      rfl

/-- A node meets its id, in whichever form and order its members are written. -/
theorem Node.meets_read (depth : Nat) (text : List Char) :
    (shape.read depth text).Meets text [] (fun node => [node.id]) (shows depth text) :=
  meetsIds.read depth text

/-- The id of a connection and those of its ends are those that its fields meet. -/
theorem Connection.meetsIds :
    shape.MeetsIds (fun draft => draft.id.toList ++ draft.source.toList ++ draft.target.toList)
      Connection.ids [("id", showsId), ("source", showsId), ("target", showsId)] where
  blank := rfl
  unfilled := by simp [shape, Slot.ofReader]
  each := by
    simp only [shape, List.forall_mem_cons]
    refine ⟨Slot.meetsIds_ofReader meets_id (by simp) ?_,
      Slot.meetsIds_ofReader meets_id (by simp) ?_,
      Slot.meetsIds_ofReader meets_id (by simp) ?_, List.forall_mem_nil _⟩
    all_goals
      intro draft value empty id
      simp only [empty, Option.toList_some, Option.toList_none, List.nil_append, List.append_nil,
        List.mem_append, or_comm, or_assoc]
  apart := by
    simp only [shape, List.pairwise_cons, List.forall_mem_cons]
    exact ⟨⟨Slot.leaves_ofReader fun _ _ => rfl, Slot.leaves_ofReader fun _ _ => rfl, List.forall_mem_nil _⟩,
      ⟨Slot.leaves_ofReader fun _ _ => rfl, List.forall_mem_nil _⟩, List.forall_mem_nil _, .nil⟩
  complete draft edge made := by
    rcases draft with ⟨_ | id, _ | source, _ | target⟩
    case some.some.some =>
      obtain rfl := Except.ok.inj made
      rfl
    all_goals cases made

/-- A connection meets its id and those of its ends, in whichever order they are
written. -/
theorem Connection.meets_read (depth : Nat) (text : List Char) :
    (shape.read depth text).Meets text [] ids (shows depth text) :=
  meetsIds.read depth text

/-- The ids of a diagram are those that its lists meet. A list that is named a
second time is refused before anything in it is read. -/
theorem Diagram.meetsIds :
    shape.MeetsIds
      (fun draft =>
        (draft.nodes.getD []).map Node.id ++ (draft.edges.getD []).flatMap Connection.ids)
      Diagram.ids [("nodes", showsInList Node.shape.read Node.shows),
        ("edges", showsInList Connection.shape.read Connection.shows)] where
  blank := rfl
  unfilled := by simp [shape, Slot.ofReader]
  each := by
    simp only [shape, List.forall_mem_cons]
    refine ⟨Slot.meetsIds_ofReader (meets_list Node.meets_read) (by simp) ?_,
      Slot.meetsIds_ofReader (meets_list Connection.meets_read) (by simp) ?_, List.forall_mem_nil _⟩
    · intro draft nodes empty id
      simp only [empty, Option.getD_some, Option.getD_none, List.map_eq_flatMap, List.flatMap_nil,
        List.nil_append, List.mem_append, or_comm]
    · intro draft edges empty id
      simp only [empty, Option.getD_some, Option.getD_none, List.flatMap_nil, List.append_nil,
        List.mem_append]
  apart := by
    simp only [shape, List.pairwise_cons, List.forall_mem_cons]
    exact ⟨⟨Slot.leaves_ofReader fun _ _ => rfl, List.forall_mem_nil _⟩, List.forall_mem_nil _, .nil⟩
  complete draft edge made := by
    rcases draft with ⟨_ | nodes, _ | edges⟩
    case some.some =>
      obtain rfl := Except.ok.inj made
      rfl
    all_goals cases made

/-- From the reading of a text a registry learns ids and nothing else. After success it knows what
it knew and the ids of what was read. After a fault it knows what it knew, and whatever it knows
besides is shown as an id by the text, in front of the fault. -/
def Registry.LearnsIds {α : Type} (registry : Registry) (text : String) (reading : Reading α)
    (ids : α → List String) (shows : Showing) : Prop :=
  match reading.outcome with
  | .ok value => ∀ id, (registry.learnAll reading.seen).knows id = true ↔
      registry.knows id = true ∨ id ∈ ids value
  | .error fault => ∀ id,
      (registry.knows id = true → (registry.learnAll reading.seen).knows id = true) ∧
      ((registry.learnAll reading.seen).knows id = true → registry.knows id = true ∨
        ∃ behind, shows nestingLimit text.toList id behind ∧ behind <:+ text.toList ∧
          fault.unread <:+ behind)

/-- What a reading meets is what a registry learns from it, in addition to what it
knew. -/
theorem Registry.learnsIds_of_meetsOnly {α : Type} {reading : Reading α} {text : String}
    {ids : α → List String} {shows : Showing} (registry : Registry)
    (meets : reading.MeetsOnly text ids shows) : registry.LearnsIds text reading ids shows := by
  have known (id : String) : (registry.learnAll reading.seen).knows id = true ↔
      registry.knows id = true ∨ id ∈ reading.seen := by
    simp [knows_learnAll, or_comm]
  unfold Reading.MeetsOnly at meets
  unfold LearnsIds
  cases read : reading.outcome with
  | ok value =>
    rw [read] at meets
    intro id
    rw [known, meets]
  | error fault =>
    rw [read] at meets
    intro id
    rw [known]
    exact ⟨Or.inl, Or.imp_right (meets id)⟩

/-- From the text of nodes, of connections or of a diagram every registry learns
exactly the ids in what is read, those of the nodes, the connections and their ends.
If the text is faulty, it forgets nothing, and learns only what stands as such an id
in front of the fault. -/
theorem texts_teach_ids (registry : Registry) (text : String) :
    registry.LearnsIds text (Node.listOfText text) (List.map Node.id)
      (showsInList Node.shape.read Node.shows) ∧
    registry.LearnsIds text (Connection.listOfText text) (List.flatMap Connection.ids)
      (showsInList Connection.shape.read Connection.shows) ∧
    registry.LearnsIds text (Diagram.ofText text) Diagram.ids Diagram.shows := by
  refine ⟨?_, ?_, ?_⟩
  · have nodes := meetsOnly_whole (meets_list Node.meets_read) text
    have ids : List.flatMap (fun node : Node => [node.id]) = List.map Node.id :=
      funext fun _ => List.map_eq_flatMap.symm
    rw [ids] at nodes
    exact registry.learnsIds_of_meetsOnly nodes
  · exact registry.learnsIds_of_meetsOnly (meetsOnly_whole (meets_list Connection.meets_read) text)
  · exact registry.learnsIds_of_meetsOnly (meetsOnly_whole Diagram.meetsIds.read text)

/-- Payloads and members that are not known teach nothing, in front of a fault or elsewhere. -/
example :
    (Node.listOfText ("[\x7b\"id\":\"vpc-1\",\"note\":\"vpc-2\",\"data\":\"vpc-3\"\x7d,"
      ++ "\x7b\"data\":\"vpc-4\",\"id\":\"vpc-5\",\"id\":\"vpc-6\"\x7d]")).seen =
        ["vpc-1", "vpc-5"] := by
  decide +kernel

end CloudDiagram
