import CloudDiagram.Diagram.Wire
import CloudDiagram.Proofs.Json.Records
import CloudDiagram.Proofs.Resource.Doubles
import CloudDiagram.Proofs.Resource.Written

/-!
# Diagrams survive the wire

Connections are texts and are always read as they were written. A node is read if its coordinates
are finite and its payload does not nest too deep; if not, it is refused, and with it the whole
list that it stands in. A coordinate that is not finite has no number, and the brackets of the
list and of the node count as much as those of the payload. A node that is read is the one that
was written, except for its doubles: each of them is read again, and it is the same node exactly
if all of them read back.

Nodes that were read from a text satisfy both conditions, whatever form the text gave them. So
writing them and reading that succeeds, and if their doubles read back, it gives the same nodes,
and a list of nodes that is written once more is the same text.
-/

namespace CloudDiagram

open Json Numeric

/-- An id is read as it was written. Reading it also makes it known, which does not
change what is read. -/
theorem reads_id (depth : Nat) (id : String) :
    Reads (readId depth) (Value.string id).chars (some id) := by
  intro rest ends
  rw [readId, Reading.value?_bind, reads_text id rest ends]
  rfl

/-- A connection is read as it was written. It is three texts under three names, and
all texts are read back. -/
theorem reads_connection (depth : Nat) (connection : Connection) :
    Reads (Connection.shape.read (depth + 1)) connection.toValue.chars (some connection) := by
  obtain ⟨id, source, target⟩ := connection
  have readId (draft : Connection.Draft) (empty : draft.id = none) :
      Reads (Connection.shape.readMember depth "id" draft) (':' :: (Value.string id).chars)
        (some { draft with id := some id }) :=
    reads_field rfl empty (reads_id depth id) rfl
  have readSource (draft : Connection.Draft) (empty : draft.source = none) :
      Reads (Connection.shape.readMember depth "source" draft) (':' :: (Value.string source).chars)
        (some { draft with source := some source }) :=
    reads_field rfl empty (reads_id depth source) rfl
  have readTarget (draft : Connection.Draft) (empty : draft.target = none) :
      Reads (Connection.shape.readMember depth "target" draft) (':' :: (Value.string target).chars)
        (some { draft with target := some target }) :=
    reads_field rfl empty (reads_id depth target) rfl
  exact reads_record (.more (readId {} rfl) (.more (readSource _ rfl) (.more (readTarget _ rfl)
    (.done _))))

/-- A list of connections is read as it was written, without any condition:
connections hold no numbers and nest no deeper than a record. -/
theorem value?_listOfText_connections (connections : List Connection) :
    (Connection.listOfText (Connection.listText connections)).value? = some connections := by
  have read : Reads (readList Connection.shape.read nestingLimit)
      (Value.array (connections.map Connection.toValue)).chars
      (connections.mapM fun connection => some connection) :=
    reads_list fun connection _ => reads_connection 125 connection
  rw [Connection.listOfText, Connection.listText, value?_readWhole read]
  simpa using List.mapM_pure (m := Option) (f := id) (l := connections)

/-- Whether a double is finite, that is, whether it is written as a number. -/
def Numeric.Binary64.isFinite : Binary64 → Bool
  | .finite _ => true
  | .infinity _ | .nan => false

/-- The double that is read from what a double is written as, if anything is. The
others are written as null, and nothing is read from that. -/
def Numeric.Binary64.reread : Binary64 → Binary64
  | .finite x => .finite x.reread
  | .infinity negative => .infinity negative
  | .nan => .nan

/-- The finite double that a double is, if it is one. It is the only one that is
written. -/
def Numeric.Binary64.doubles : Binary64 → List FiniteDouble
  | .finite x => [x]
  | .infinity _ | .nan => []

/-- A double is not changed by being read again exactly if it reads back, where a
double that is not finite stays as it is. -/
theorem Numeric.Binary64.reread_eq_self_iff (x : Binary64) :
    x.reread = x ↔ ∀ double ∈ x.doubles, double.ReadsBack := by
  cases x <;> simp [reread, doubles, FiniteDouble.ReadsBack]

/-- Whether both coordinates are finite. -/
def Position.isFinite (position : Position) : Bool := position.x.isFinite && position.y.isFinite

/-- Both coordinates read again. -/
def Position.reread (position : Position) : Position := ⟨position.x.reread, position.y.reread⟩

/-- A finite double is read again; any other was written as null and is refused. -/
theorem reads_double (x : Binary64) :
    Reads (fun text => .ofExcept (scanDouble text)) (Value.ofBinary64 x).chars
      (if x.isFinite then some x.reread else none) := by
  cases x with
  | finite value =>
    exact reads_scanWanted .double _ (rfl : (Value.number (.double value)).nesting = 0)
  | infinity _ | nan => exact reads_scanWanted .double _ (rfl : Value.null.nesting = 0)

/-- A position is read again if it is finite, and refused if not. One coordinate
that is not finite is enough for that. -/
theorem reads_position (depth : Nat) (position : Position) :
    Reads (Position.shape.read (depth + 1)) position.toValue.chars
      (if position.isFinite then some position.reread else none) := by
  obtain ⟨x, y⟩ := position
  have readX (draft : Position.Draft) (empty : draft.x = none) :
      Reads (Position.shape.readMember depth "x" draft) (':' :: (Value.ofBinary64 x).chars)
        ((if x.isFinite then some x.reread else none).map fun x => { draft with x := some x }) :=
    reads_field rfl empty (reads_double x) rfl
  have readY (draft : Position.Draft) (empty : draft.y = none) :
      Reads (Position.shape.readMember depth "y" draft) (':' :: (Value.ofBinary64 y).chars)
        ((if y.isFinite then some y.reread else none).map fun y => { draft with y := some y }) :=
    reads_field rfl empty (reads_double y) rfl
  by_cases finiteX : x.isFinite
  · rw [finiteX] at readX
    by_cases finiteY : y.isFinite
    · rw [finiteY] at readY
      rw [Position.isFinite, finiteX, finiteY]
      exact reads_record (.more (readX {} rfl) (.more (readY _ rfl) (.done _)))
    · rw [if_neg finiteY] at readY
      rw [Position.isFinite, if_neg (by simp [finiteY])]
      exact reads_record (.more (readX {} rfl) (.refused (readY _ rfl)))
  · rw [if_neg finiteX] at readX
    rw [Position.isFinite, if_neg (by simp [finiteX])]
    exact reads_record (.refused (readX {} rfl))

/-- The coordinates that have been read are finite, whichever of them have been read
so far. -/
structure Position.Draft.Finite (draft : Position.Draft) : Prop where
  x : ∀ x ∈ draft.x, x.isFinite = true
  y : ∀ y ∈ draft.y, y.isFinite = true

/-- A double that is read is finite, since a number that is too large for one is
refused. -/
theorem yields_double (text : List Char) :
    Yields (.ofExcept (scanDouble text)) fun x => x.isFinite = true := by
  refine yields_scanWanted ?_ text
  intro value picked found
  split at found
  · obtain rfl := Option.some.inj found
    rfl
  · cases found

/-- A position that is read is finite. Both coordinates are required, so none is
left at a default that could be something else. -/
theorem yields_position (depth : Nat) (text : List Char) :
    Yields (Position.shape.read (depth + 1) text) fun position => position.isFinite = true := by
  have blank : Position.Draft.Finite Position.shape.blank := ⟨nofun, nofun⟩
  refine yields_record blank ?_ ?_ text
  · intro field member
    simp only [Position.shape, List.mem_cons, List.not_mem_nil, or_false] at member
    rcases member with rfl | rfl
    · exact yields_ofReader yields_double fun draft x held finiteX =>
        ⟨fun _ found => Option.some.inj found ▸ finiteX, held.y⟩
    · exact yields_ofReader yields_double fun draft y held finiteY =>
        ⟨held.x, fun _ found => Option.some.inj found ▸ finiteY⟩
  · rintro ⟨x, y⟩ position ⟨finiteX, finiteY⟩ completed
    cases x with
    | none => cases completed
    | some x =>
      cases y with
      | none => cases completed
      | some y =>
        obtain rfl := Except.ok.inj completed
        simp [Position.isFinite, finiteX x rfl, finiteY y rfl]

/-- The coordinates are finite, and the payload nests no deeper than allowed. Nodes
are refused for no other reason once they are written. -/
def Node.Legible (depth : Nat) (node : Node) : Prop :=
  node.position.isFinite = true ∧ node.payload.toValue.nesting ≤ depth

instance (depth : Nat) : DecidablePred (Node.Legible depth) :=
  fun _ => inferInstanceAs (Decidable (_ ∧ _))

/-- The node with every double in it read again. Id and kind stay, and so do the
attributes that were understood. -/
def Node.reread (node : Node) : Node where
  id := node.id
  payload := node.payload.mapDoubles FiniteDouble.reread
  position := node.position.reread

/-- The doubles in a node: its coordinates and those in a payload that was not
understood. Attributes that were understood hold none. -/
def Node.doubles (node : Node) : List FiniteDouble :=
  node.position.x.doubles ++ (node.position.y.doubles ++ node.payload.doubles)

/-- A node is not changed by being read again exactly if each of its doubles reads
back. -/
theorem Node.reread_eq_self_iff (node : Node) :
    node.reread = node ↔ ∀ x ∈ node.doubles, x.ReadsBack := by
  obtain ⟨id, payload, x, y⟩ := node
  have doubles := payload.mapDoubles_eq_self_iff FiniteDouble.reread
  simp only [Node.reread, Position.reread, Node.doubles, Node.mk.injEq, Position.mk.injEq,
    List.forall_mem_append, x.reread_eq_self_iff, y.reread_eq_self_iff, doubles, true_and]
  exact and_comm.trans and_assoc

/-- A node is read again if it is legible, and refused if not. The payload is read
as any value is; that reading it again gives the same payload is due to the payload
having been read before. -/
theorem reads_node (depth : Nat) {node : Node} (faithful : node.payload.Faithful) :
    Reads (Node.shape.read (depth + 2)) node.toValue.chars
      (if node.Legible (depth + 1) then some node.reread else none) := by
  obtain ⟨id, payload, position⟩ := node
  have readId (draft : Node.Draft) (empty : draft.id = none) :
      Reads (Node.shape.readMember (depth + 1) "id" draft) (':' :: (Value.string id).chars)
        (some { draft with id := some id }) :=
    reads_field rfl empty (reads_id (depth + 1) id) rfl
  have readPosition (draft : Node.Draft) (empty : draft.position = none) :
      Reads (Node.shape.readMember (depth + 1) "position" draft) (':' :: position.toValue.chars)
        ((if position.isFinite then some position.reread else none).map fun position =>
          { draft with position := some position }) :=
    reads_field rfl empty (reads_position depth position) rfl
  have readPayload (draft : Node.Draft) (empty : draft.payload = none) :
      Reads (Node.shape.readMember (depth + 1) "data" draft) (':' :: payload.toValue.chars)
        ((if payload.toValue.nesting ≤ depth + 1 then some payload.toValue.reread else none).map
          fun value => { draft with payload := some value }) :=
    reads_field rfl empty (reads_value faithful.canonical (depth + 1)) rfl
  by_cases finite : position.isFinite
  · rw [finite] at readPosition
    by_cases shallow : payload.toValue.nesting ≤ depth + 1
    · have legible : Node.Legible (depth + 1) ⟨id, payload, position⟩ := ⟨finite, shallow⟩
      -- the value of the payload is read again, and so the payload is
      have again : Payload.ofValue payload.toValue.reread =
          payload.mapDoubles FiniteDouble.reread := by
        rw [Value.reread, Payload.ofValue_mapDoubles, faithful.read]
      have completed : (Node.shape.complete
          ⟨some id, some position.reread, some payload.toValue.reread⟩).toOption =
            some (Node.reread ⟨id, payload, position⟩) :=
        congrArg (fun payload => some (⟨id, payload, position.reread⟩ : Node)) again
      rw [if_pos shallow] at readPayload
      rw [if_pos legible, ← completed]
      exact reads_record (.more (readId {} rfl) (.more (readPosition _ rfl)
        (.more (readPayload _ rfl) (.done _))))
    · have illegible : ¬Node.Legible (depth + 1) ⟨id, payload, position⟩ :=
        fun legible => shallow legible.2
      rw [if_neg shallow] at readPayload
      rw [if_neg illegible]
      exact reads_record (.more (readId {} rfl) (.more (readPosition _ rfl)
        (.refused (readPayload _ rfl))))
  · have illegible : ¬Node.Legible (depth + 1) ⟨id, payload, position⟩ :=
      fun legible => finite legible.1
    rw [if_neg finite] at readPosition
    rw [if_neg illegible]
    exact reads_record (.more (readId {} rfl) (.refused (readPosition _ rfl)))

/-- How deep a payload may nest inside the brackets of a list and of its node. -/
def listedPayloadLimit : Nat := nestingLimit - 2

/-- A list of nodes is read again if all its nodes are legible inside its brackets,
and refused if one is not. A single node that is refused takes the whole list with
it. -/
theorem Node.value?_listOfText_listText {nodes : List Node}
    (faithful : ∀ node ∈ nodes, node.payload.Faithful) :
    (Node.listOfText (Node.listText nodes)).value? =
      if ∀ node ∈ nodes, node.Legible listedPayloadLimit then some (nodes.map Node.reread)
      else none := by
  have read : Reads (readList Node.shape.read nestingLimit)
      (Value.array (nodes.map Node.toValue)).chars
      (nodes.mapM fun node =>
        if node.Legible listedPayloadLimit then some node.reread else none) :=
    reads_list fun node member => reads_node 124 (faithful node member)
  rw [Node.listOfText, Node.listText, value?_readWhole read, mapM_if Node.reread]

/-- The position that has been read is finite, and the payload is canonical and
nests no deeper than allowed. -/
structure Node.Draft.Within (depth : Nat) (draft : Node.Draft) : Prop where
  position : ∀ position ∈ draft.position, position.isFinite = true
  payload : ∀ value ∈ draft.payload, value.Within depth

/-- A node that is read is legible, and its payload is read as it was written. A
node without a position or a payload gets defaults that satisfy both. -/
theorem yields_node {depth : Nat} (enough : 3 ≤ depth) (text : List Char) :
    Yields (Node.shape.read (depth + 2) text) fun node =>
      node.Legible (depth + 1) ∧ node.payload.Faithful := by
  have blank : Node.Draft.Within (depth + 1) Node.shape.blank := ⟨nofun, nofun⟩
  refine yields_record blank ?_ ?_ text
  · intro field member
    simp only [Node.shape, List.mem_cons, List.not_mem_nil, or_false] at member
    rcases member with rfl | rfl | rfl
    · have anyId (text : List Char) : Yields (readId (depth + 1) text) fun _ => True :=
        fun _ _ _ => trivial
      exact yields_ofReader anyId fun draft id held _ => ⟨held.position, held.payload⟩
    · exact yields_ofReader (yields_position depth) fun draft position held finite =>
        ⟨fun _ found => Option.some.inj found ▸ finite, held.payload⟩
    · exact yields_ofReader (yields_value (depth + 1)) fun draft value held within =>
        ⟨held.position, fun _ found => Option.some.inj found ▸ within⟩
  · rintro ⟨id, position, payload⟩ node ⟨finite, within⟩ completed
    cases id with
    | none => cases completed
    | some id =>
      obtain rfl := Except.ok.inj completed
      have value : (payload.getD Value.null).Within (depth + 1) := by
        cases payload with
        | none => exact .of_scalar rfl _
        | some value => exact within value rfl
      have placed : (position.getD Position.origin).isFinite = true := by
        cases position with
        | none => rfl
        | some position => exact finite position rfl
      constructor
      · exact ⟨placed, (Payload.within_toValue_ofValue value (by omega)).shallow⟩
      · exact Payload.faithful_ofValue value.canonical

/-- A node that is read alone is legible inside its own brackets, one level more
than in a list. So it may be too deep for the list that it is later written in. -/
theorem Node.legible_of_ofText {text : String} {node : Node}
    (read : (Node.ofText text).value? = some node) :
    node.Legible (listedPayloadLimit + 1) ∧ node.payload.Faithful :=
  yields_whole (yields_node (by decide : 3 ≤ 125)) read

/-- The nodes of a list that is read are legible inside its brackets, so the list
can be written and read again. -/
theorem Node.legible_of_listOfText {text : String} {nodes : List Node}
    (read : (Node.listOfText text).value? = some nodes) :
    ∀ node ∈ nodes, node.Legible listedPayloadLimit ∧ node.payload.Faithful :=
  yields_whole (yields_list (yields_node (by decide : 3 ≤ 124))) read

/-- Nodes are not changed by being read again exactly if all their doubles read
back. -/
theorem Node.map_reread_eq_self_iff {nodes : List Node} :
    nodes.map Node.reread = nodes ↔ ∀ node ∈ nodes, ∀ x ∈ node.doubles, x.ReadsBack := by
  have pointwise : nodes.map Node.reread = nodes.map (fun node => node) ↔
      ∀ node ∈ nodes, node.reread = node := List.map_inj_left
  rw [List.map_id'] at pointwise
  simpa only [Node.reread_eq_self_iff] using pointwise

/-- Whatever text a list of nodes was read from, the text that the nodes are written
as is read again, as the same nodes with their doubles read again. If these doubles
read back, they are the nodes themselves, and they are written as the same text once
more.

Proof: nodes that were read are legible inside the brackets of a list, whatever form
the text gave them, and their payloads are faithful. These are the two things that
reading them again depends on. -/
theorem Node.reading_retracts {text : String} {nodes : List Node}
    (read : (Node.listOfText text).outcome = .ok nodes) :
    (Node.listOfText (Node.listText nodes)).outcome = .ok (nodes.map Node.reread) ∧
      ((∀ node ∈ nodes, ∀ x ∈ node.doubles, x.ReadsBack) →
        (Node.listOfText (Node.listText nodes)).outcome = .ok nodes ∧
          (Node.listOfText (Node.listText nodes)).outcome.map Node.listText =
            .ok (Node.listText nodes)) := by
  have held := Node.legible_of_listOfText (Reading.value?_eq_some_iff.mpr read)
  have written := Node.value?_listOfText_listText fun node member => (held node member).2
  rw [if_pos fun node member => (held node member).1] at written
  have again := Reading.value?_eq_some_iff.mp written
  refine ⟨again, fun readBack => ?_⟩
  rw [again, Node.map_reread_eq_self_iff.mpr readBack]
  exact ⟨rfl, rfl⟩

/-- Two nodes that a text gives in unlike forms, one as an array without a payload and one with its
members in another order, an escaped id, no position, a general name for its kind and attributes
as an array, are read again from the text that they are written as. -/
theorem Node.reading_retracts_unlike_forms :
    let text := "[[\"a\",[1,2.50]],\x7b\"note\":\x7b\"k\":[true]\x7d,\"data\":\x7b" ++
      "\"type\":\"network\",\"note\":-0,\"data\":[\"n\",\"10.0.0.0/16\"]\x7d,\"id\":\"\\u0062\"\x7d]"
    let nodes : List Node := [
      ⟨"a", .malformed .null, ⟨.ofDecimal false ⟨1, 0⟩, .ofDecimal false ⟨25, -1⟩⟩⟩,
      ⟨"b", .network { name := "n", cidrBlock := "10.0.0.0/16" }, .origin⟩]
    (Node.listOfText text).outcome = .ok nodes ∧
      (Node.listOfText (Node.listText nodes)).outcome = .ok nodes ∧
        (Node.listOfText (Node.listText nodes)).outcome.map Node.listText =
          .ok (Node.listText nodes) := by
  intro text nodes
  have read : (Node.listOfText text).outcome = .ok nodes := by decide +kernel
  have few : ∀ node ∈ nodes, ∀ x ∈ node.doubles, x.numeral.significand < 9007199254740992 ∧
      x.numeral.decimal.exponent.natAbs ≤ Decimal.exactPower := by decide +kernel
  have readBack : ∀ node ∈ nodes, ∀ x ∈ node.doubles, x.ReadsBack := fun node member x inside =>
    FiniteDouble.readsBack_of_few (few node member x inside).1 (few node member x inside).2
  exact ⟨read, (Node.reading_retracts read).2 readBack⟩

end CloudDiagram
