import CloudDiagram.Proofs.Workspace.Coherence

/-!
# What comes of a change

A change has one of four outcomes, and the live diagram alone decides which: a node is to be added
under an id that is taken, a node is to be changed that is not there, there is nothing to do, or
none of these. It does not matter what the diagram has come to be, so ids that stand twice and
parallel connections are no exception; nor does a text of the user in place of the code.

Only in the last case anything happens, and then exactly one entry is recorded, behind the one that
the cursor was on.
-/

namespace CloudDiagram

namespace Diagram

/-- A node has the id. It is the same as to look for the id among the nodes, said
without a search. -/
def Carries (diagram : Diagram) (id : String) : Prop := ∃ node ∈ diagram.nodes, node.id = id

/-- A connection runs from the one id to the other. Its own id does not matter, nor
whether these two are ids of nodes. -/
def Connects (diagram : Diagram) (source target : String) : Prop :=
  ∃ edge ∈ diagram.edges, edge.source = source ∧ edge.target = target

/-- Looking for an id finds the nodes that have it, so the check for taken ids says
what it is meant to. -/
theorem contains_eq_true_iff {diagram : Diagram} {id : String} :
    diagram.contains id = true ↔ diagram.Carries id := by
  simp [contains, Carries]

/-- Looking for a parallel connection finds those between the same ends in the same
direction; a connection back is not parallel. -/
theorem any_parallel_iff {diagram : Diagram} {edge : Connection} :
    diagram.edges.any edge.parallel = true ↔ diagram.Connects edge.source edge.target := by
  rw [List.any_eq_true]
  refine exists_congr fun other => and_congr_right fun _ => ?_
  rw [Connection.parallel, Bool.and_eq_true, decide_eq_true_eq, decide_eq_true_eq,
    @eq_comm _ edge.source, @eq_comm _ edge.target]

/-- A node is changed if there is one of the id, and else the change is refused. One
of the two always holds, whatever the change is. -/
theorem withNode_cases (diagram : Diagram) (id : String) (change : Node → Node) :
    (diagram.Carries id ∧ ∃ edited, diagram.withNode id change = .ok (some edited)) ∨
      (¬diagram.Carries id ∧ diagram.withNode id change = .error (.unknownNode id)) := by
  have absent : changeNode? id change diagram.nodes = none ↔ ¬diagram.Carries id := by
    simp [changeNode?_eq_none_iff, Carries]
  cases changed : changeNode? id change diagram.nodes with
  | some nodes =>
    rw [changed] at absent
    exact Or.inl ⟨by simpa using absent, { diagram with nodes }, by simp [withNode, changed]⟩
  | none => exact Or.inr ⟨absent.mp changed, by simp [withNode, changed]⟩

end Diagram

namespace Change

/-- A node is to be added under an id that a node has. This is one of the four
things a change can come to, with the id that is named in the answer. -/
def Duplicates (change : Change) (diagram : Diagram) (id : String) : Prop :=
  (∃ node, change = .edit (.addNode node) ∧ node.id = id) ∧ diagram.Carries id

/-- The payload or the place of a node of the id is to be changed. These two edits
differ only in what they write, so they are treated alike. -/
def Rewrites (change : Change) (id : String) : Prop :=
  (∃ payload, change = .edit (.setPayload id payload)) ∨
    ∃ position, change = .edit (.moveNode id position)

/-- A node is to be changed, and none has the id. To remove such a node is no fault,
as nothing would be left to do; to change it is one. -/
def Misses (change : Change) (diagram : Diagram) (id : String) : Prop :=
  change.Rewrites id ∧ ¬diagram.Carries id

/-- A node is to be removed that is not there, or a connection to be added that is
there. The diagram is as it was asked to be, so no entry is recorded. -/
def Idle (change : Change) (diagram : Diagram) : Prop :=
  (∃ id, change = .edit (.removeNode id) ∧ ¬diagram.Carries id) ∨
    ∃ edge, change = .edit (.addEdge edge) ∧ diagram.Connects edge.source edge.target

end Change

/-- What a change comes to in a diagram, with the condition for each answer. The
last case is said by ruling out the others, so that each of the four conditions
decides one answer. -/
inductive Outcome (change : Change) (diagram : Diagram) : Except Refusal Bool → Prop where
  | duplicate {id : String} (duplicates : change.Duplicates diagram id) :
    Outcome change diagram (.error (.duplicateId id))
  | unknown {id : String} (misses : change.Misses diagram id) :
    Outcome change diagram (.error (.unknownNode id))
  | idle (idle : change.Idle diagram) : Outcome change diagram (.ok false)
  | recorded (unique : ∀ id, ¬change.Duplicates diagram id)
    (known : ∀ id, ¬change.Misses diagram id) (busy : ¬change.Idle diagram) :
    Outcome change diagram (.ok true)

section Exclusive

variable {change : Change} {diagram : Diagram} {id other : String}

/-- A new node has one id, so the id that is named in the answer is determined by
the change. -/
theorem Change.Duplicates.id_eq (duplicates : change.Duplicates diagram id)
    (again : change.Duplicates diagram other) : id = other := by
  obtain ⟨⟨node, rfl, rfl⟩, -⟩ := duplicates
  obtain ⟨⟨_, ⟨⟩, rfl⟩, -⟩ := again
  rfl

/-- A new node is something to do, whatever its id. So a taken id is not mistaken
for a change that has nothing to do. -/
theorem Change.Duplicates.not_idle (duplicates : change.Duplicates diagram id) :
    ¬change.Idle diagram := by
  obtain ⟨⟨node, rfl, -⟩, -⟩ := duplicates
  rintro (⟨_, ⟨⟩, -⟩ | ⟨_, ⟨⟩, -⟩)

/-- A node is changed under one id, which is the one that is named in the answer if
there is no such node. -/
theorem Change.Rewrites.id_eq (rewrites : change.Rewrites id) (again : change.Rewrites other) :
    id = other := by
  obtain ⟨payload, rfl⟩ | ⟨position, rfl⟩ := rewrites
  · obtain ⟨_, ⟨⟩⟩ | ⟨_, ⟨⟩⟩ := again
    rfl
  · obtain ⟨_, ⟨⟩⟩ | ⟨_, ⟨⟩⟩ := again
    rfl

/-- A change of a node adds none, so no id is taken by it. -/
theorem Change.Rewrites.not_duplicates (rewrites : change.Rewrites id) :
    ¬change.Duplicates diagram other := by
  rintro ⟨⟨node, rfl, -⟩, -⟩
  obtain ⟨_, ⟨⟩⟩ | ⟨_, ⟨⟩⟩ := rewrites

/-- A change of a node is something to do, also if it is not there, and also if the
node has that payload or that place already. -/
theorem Change.Rewrites.not_idle (rewrites : change.Rewrites id) : ¬change.Idle diagram := by
  rintro (⟨_, rfl, -⟩ | ⟨_, rfl, -⟩)
  · obtain ⟨_, ⟨⟩⟩ | ⟨_, ⟨⟩⟩ := rewrites
  · obtain ⟨_, ⟨⟩⟩ | ⟨_, ⟨⟩⟩ := rewrites

end Exclusive

namespace Outcome

variable {change : Change} {diagram : Diagram} {answer : Except Refusal Bool}

/-- It is answered that an id is taken exactly if it is, and the id in the answer is
the one of the new node. -/
theorem eq_duplicateId_iff (outcome : Outcome change diagram answer) {id : String} :
    answer = .error (.duplicateId id) ↔ change.Duplicates diagram id := by
  constructor
  · rintro rfl
    cases outcome with
    | duplicate duplicates => exact duplicates
  · intro taken
    cases outcome with
    | duplicate duplicates => rw [duplicates.id_eq taken]
    | unknown misses => exact absurd taken misses.1.not_duplicates
    | idle idle => exact absurd idle taken.not_idle
    | recorded unique _ _ => exact absurd taken (unique id)

/-- It is answered that a node is not there exactly if it is not, and the id in the
answer is the one that was asked for. -/
theorem eq_unknownNode_iff (outcome : Outcome change diagram answer) {id : String} :
    answer = .error (.unknownNode id) ↔ change.Misses diagram id := by
  constructor
  · rintro rfl
    cases outcome with
    | unknown misses => exact misses
  · intro missing
    cases outcome with
    | duplicate duplicates => exact absurd duplicates missing.1.not_duplicates
    | unknown misses => rw [misses.1.id_eq missing.1]
    | idle idle => exact absurd idle missing.1.not_idle
    | recorded _ known _ => exact absurd missing (known id)

/-- It is answered that nothing was recorded exactly if there is nothing to do. The
other three answers rule that out. -/
theorem eq_false_iff (outcome : Outcome change diagram answer) :
    answer = .ok false ↔ change.Idle diagram := by
  constructor
  · rintro rfl
    cases outcome with
    | idle idle => exact idle
  · intro nothing
    cases outcome with
    | duplicate duplicates => exact absurd nothing duplicates.not_idle
    | unknown misses => exact absurd nothing misses.1.not_idle
    | idle _ => rfl
    | recorded _ _ busy => exact absurd nothing busy

/-- It is answered that something was recorded exactly in all other cases, that is
where no id is taken, no node is missed and there is something to do. -/
theorem eq_true_iff (outcome : Outcome change diagram answer) :
    answer = .ok true ↔ (∀ id, ¬change.Duplicates diagram id) ∧
      (∀ id, ¬change.Misses diagram id) ∧ ¬change.Idle diagram := by
  constructor
  · rintro rfl
    cases outcome with
    | recorded unique known busy => exact ⟨unique, known, busy⟩
  · rintro ⟨unique, known, busy⟩
    cases outcome with
    | duplicate duplicates => exact absurd duplicates (unique _)
    | unknown misses => exact absurd misses (known _)
    | idle idle => exact absurd idle busy
    | recorded _ _ _ => rfl

/-- A change of a node is refused if none has its id, and is recorded otherwise,
also where it writes what was there. -/
theorem of_withNode {id : String} (rewrites : change.Rewrites id) (edit : Node → Node) :
    Outcome change diagram ((diagram.withNode id edit).map Option.isSome) := by
  rcases diagram.withNode_cases id edit with ⟨present, edited, done⟩ | ⟨absent, refused⟩
  · rw [done]
    refine .recorded (fun _ => rewrites.not_duplicates) ?_ rewrites.not_idle
    rintro other ⟨again, absent⟩
    exact absent (rewrites.id_eq again ▸ present)
  · rw [refused]
    exact .unknown ⟨rewrites, absent⟩

/-- An edit is refused, or says whether there is something to do, as its outcome is.
It is one case for each kind of edit, and nothing but the live diagram is looked at.
-/
theorem of_edit (diagram : Diagram) (edit : Diagram.Edit) :
    Outcome (.edit edit) diagram ((diagram.edit edit).map Option.isSome) := by
  cases edit with
  | addNode node =>
    by_cases taken : diagram.Carries node.id
    · rw [Diagram.edit, if_pos (Diagram.contains_eq_true_iff.mpr taken)]
      exact .duplicate ⟨⟨node, rfl, rfl⟩, taken⟩
    · rw [Diagram.edit, if_neg (mt Diagram.contains_eq_true_iff.mp taken)]
      refine .recorded ?_ (by simp [Change.Misses, Change.Rewrites]) (by simp [Change.Idle])
      rintro id ⟨⟨_, ⟨⟩, rfl⟩, carried⟩
      exact taken carried
  | removeNode id =>
    by_cases present : diagram.Carries id
    · rw [Diagram.edit, if_pos (Diagram.contains_eq_true_iff.mpr present)]
      refine .recorded (by simp [Change.Duplicates]) (by simp [Change.Misses, Change.Rewrites]) ?_
      rintro (⟨_, ⟨⟩, absent⟩ | ⟨_, ⟨⟩, -⟩)
      exact absent present
    · rw [Diagram.edit, if_neg (mt Diagram.contains_eq_true_iff.mp present)]
      exact .idle (Or.inl ⟨id, rfl, present⟩)
  | replaceNodes _ | replaceEdges _ =>
    refine .recorded ?_ ?_ ?_
    all_goals simp [Change.Duplicates, Change.Misses, Change.Rewrites, Change.Idle]
  | setPayload id payload => exact .of_withNode (Or.inl ⟨payload, rfl⟩) _
  | moveNode id position => exact .of_withNode (Or.inr ⟨position, rfl⟩) _
  | addEdge edge =>
    by_cases connected : diagram.Connects edge.source edge.target
    · rw [Diagram.edit, if_pos (Diagram.any_parallel_iff.mpr connected)]
      exact .idle (Or.inr ⟨edge, rfl, connected⟩)
    · rw [Diagram.edit, if_neg (mt Diagram.any_parallel_iff.mp connected)]
      refine .recorded (by simp [Change.Duplicates]) (by simp [Change.Misses, Change.Rewrites]) ?_
      rintro (⟨_, ⟨⟩, -⟩ | ⟨_, ⟨⟩, already⟩)
      exact connected already

end Outcome

/-- Recording leaves one entry more than stand up to the cursor, or as many as the
limit allows. The entries behind the cursor are dropped, so they do not count. -/
theorem Timeline.length_record {α : Type} {timeline : Timeline α} (onEntry : timeline.OnEntry)
    (entry : α) :
    (timeline.record entry).length =
      timeline.limit.elim (timeline.cursor + 2) fun limit =>
        min (timeline.cursor + 2) (max 1 limit) := by
  have inside : timeline.cursor < timeline.entries.length := onEntry
  have reached : (timeline.entries.take (timeline.cursor + 1) ++ [entry]).length =
      timeline.cursor + 2 := by
    rw [List.length_append, List.length_take, List.length_singleton, Nat.min_eq_left inside]
  cases limited : timeline.limit with
  | none => simpa [length, record, newest, limited] using reached
  | some limit =>
    simp only [length, record, newest, limited, List.length_drop, reached, Option.elim_some]
    omega

/-- The entry that is recorded is the last one, so the cursor is on it and nothing
stands behind it. -/
theorem Timeline.cursor_record {α : Type} (timeline : Timeline α) (entry : α) :
    (timeline.record entry).cursor + 1 = (timeline.record entry).length := by
  have onEntry : (timeline.record entry).OnEntry := record_onEntry timeline entry
  have last : (timeline.record entry).cursor = (timeline.record entry).length - 1 := rfl
  have inside : (timeline.record entry).cursor < (timeline.record entry).length := onEntry
  omega

namespace Workspace

/-- A change of the live diagram comes to what its outcome there is; a text of the
user always replaces the code. -/
theorem outcome_apply (workspace : Workspace) (change : Change) :
    Outcome change workspace.diagram (workspace.apply change).1 := by
  cases change with
  | overrideCode text =>
    refine .recorded ?_ ?_ ?_
    all_goals simp [Change.Duplicates, Change.Misses, Change.Rewrites, Change.Idle]
  | edit edit =>
    have answer : (workspace.apply (.edit edit)).1 =
        (workspace.diagram.edit edit).map Option.isSome := by
      rcases edited : workspace.diagram.edit edit with refusal | _ | diagram <;>
        simp [apply, edited, Except.map]
    rw [answer]
    exact .of_edit workspace.diagram edit

/-- A recorded change adds one entry, which is what is live after it, behind those
up to the cursor; the limit keeps the newest of them. -/
theorem timeline_of_ok_true {workspace : Workspace} {change : Change}
    (recorded : (workspace.apply change).1 = .ok true) :
    (workspace.apply change).2.timeline =
      workspace.timeline.record (workspace.apply change).2.entry := by
  rcases workspace.apply_cases change with ⟨unrecorded, -⟩ | ⟨changed, applied, -, timeline, -⟩
  · exact absurd recorded unrecorded
  · rw [applied, record_timeline, timeline]
    rfl

/-- In every state that a new workspace can come to, a change is refused because of
an id exactly if a node is to be added under it and some node has it, or if a node
of it is to be changed and none has it. It has nothing to do exactly if a node is to
be removed that is not there or a connection to be added that is there, and in all
other cases it is recorded. Unless it is, nothing in the workspace changes. If it
is, one entry, which is what is live then, follows those up to the cursor. Of these
the limit keeps the newest; the cursor is on the last one, and there is nothing to
redo.

Proof: the answer is that of the outcome in the live diagram, and the four outcomes
exclude each other. What is recorded follows, since the cursor is on an entry in
every such state. -/
theorem change_has_one_outcome (settings : WorkspaceSettings) (actions : List Action)
    (change : Change) :
    let workspace := (start settings).run actions
    let answer := (workspace.apply change).1
    let after := (workspace.apply change).2
    let cursor := workspace.timeline.cursor
    (∀ id, answer = .error (.duplicateId id) ↔ change.Duplicates workspace.diagram id) ∧
      (∀ id, answer = .error (.unknownNode id) ↔ change.Misses workspace.diagram id) ∧
      (answer = .ok false ↔ change.Idle workspace.diagram) ∧
      (answer = .ok true ↔ (∀ id, ¬change.Duplicates workspace.diagram id) ∧
        (∀ id, ¬change.Misses workspace.diagram id) ∧ ¬change.Idle workspace.diagram) ∧
      (answer ≠ .ok true → after = workspace) ∧
      (answer = .ok true →
        after.timeline.entries = Timeline.newest (settings.entryLimit.map UInt64.toNat)
          (workspace.timeline.entries.take (cursor + 1) ++ [after.entry]) ∧
        after.timeline.length = settings.entryLimit.elim (cursor + 2)
          (fun limit => min (cursor + 2) (max 1 limit.toNat)) ∧
        after.timeline.cursor + 1 = after.timeline.length ∧
        after.timeline.canRedo = false) := by
  intro workspace answer after cursor
  have outcome : Outcome change workspace.diagram answer := workspace.outcome_apply change
  have limit : workspace.timeline.limit = settings.entryLimit.map UInt64.toNat :=
    run_limit (start settings) actions
  obtain ⟨entry, onEntry, -⟩ : workspace.Coherent := (start_coherent settings).run actions
  have inside : workspace.timeline.OnEntry := (List.getElem?_eq_some_iff.mp onEntry).1
  refine ⟨fun _ => outcome.eq_duplicateId_iff, fun _ => outcome.eq_unknownNode_iff,
    outcome.eq_false_iff, outcome.eq_true_iff, ?_, ?_⟩
  · intro unrecorded
    rcases workspace.apply_cases change with ⟨-, same⟩ | ⟨changed, recorded, -⟩
    · exact same
    · exact absurd (congrArg Prod.fst recorded) unrecorded
  · intro recorded
    have timeline : after.timeline = workspace.timeline.record after.entry :=
      timeline_of_ok_true recorded
    rw [timeline]
    refine ⟨?_, ?_, workspace.timeline.cursor_record after.entry,
      workspace.timeline.canRedo_record after.entry⟩
    · rw [← limit]
      rfl
    · rw [Timeline.length_record inside, limit]
      cases settings.entryLimit <;> rfl

end Workspace

end CloudDiagram
