import CloudDiagram.Proofs.Workspace.Outcomes
import CloudDiagram.Proofs.Workspace.Retrace
import Mathlib.Data.List.Nodup

/-!
# Edits of different ids commute

A removal, a new payload and a new place are each about the nodes of one id. Whether such an edit
is refused, has nothing to do or is recorded depends on one thing only, namely whether a node has
the id, and an edit of another id does not change that. Two edits of different ids lead to the
same diagram in either order: removals take nodes and connections away, and a change of the first
node of an id keeps all ids where they are.

What a workspace shows and where it stands in its timeline follow from the diagram, the code that
is generated from it and the number of recorded edits. So they do not depend on the order of
edits of different ids either, while the entries on the way do.
-/

namespace CloudDiagram

namespace Diagram

/-- The id whose nodes an edit removes or changes. An edit that appends something or
replaces a list has none, and its place among other edits does matter. -/
def Edit.target? : Edit → Option String
  | .removeNode id | .setPayload id _ | .moveNode id _ => some id
  | .addNode _ | .replaceNodes _ | .replaceEdges _ | .addEdge _ => none

/-- Each edit is about the nodes of an id, and no two are about the same id. Nothing
is asked of the diagram, so an edit may well be refused or have nothing to do. -/
structure Independent (edits : List Edit) : Prop where
  targeted : ∀ edit ∈ edits, edit.target?.isSome
  distinct : (edits.map Edit.target?).Nodup

instance (edits : List Edit) : Decidable (Independent edits) :=
  decidable_of_iff
    ((∀ edit ∈ edits, edit.target?.isSome) ∧ (edits.map Edit.target?).Nodup)
    ⟨fun both => ⟨both.1, both.2⟩, fun independent => ⟨independent.1, independent.2⟩⟩

/-- What is answered to an edit: the refusal, or whether there is something to do.
The edited diagram is left out, so that the answers in two orders can be compared.
-/
def answer (diagram : Diagram) (edit : Edit) : Except Refusal Bool :=
  (diagram.edit edit).map Option.isSome

/-- The diagram after an edit, whatever is answered to it. An edit that is refused
or has nothing to do leaves the diagram as it is. -/
def edited (diagram : Diagram) (edit : Edit) : Diagram :=
  match diagram.edit edit with
  | .ok (some edited) => edited
  | .ok none | .error _ => diagram

/-- The list with its first node of an id changed, or as it is if no node has the
id. It is what an edit comes to when its refusal is left aside. -/
def changeFirst (id : String) (change : Node → Node) (nodes : List Node) : List Node :=
  (changeNode? id change nodes).getD nodes

/-- The nodes of an id and the connections at it left out. Where nothing has the id
and no connection touches it, the diagram is as it was. -/
def without (diagram : Diagram) (id : String) : Diagram where
  nodes := diagram.nodes.filter fun node => node.id ≠ id
  edges := diagram.edges.filter fun edge => !edge.touches id

section Change

variable {id other : String} {change change' : Node → Node}

/-- The first node is changed if it has the id, and else the change is made behind
it. All that follows about such changes is by induction along this equation. -/
theorem changeFirst_cons (id : String) (change : Node → Node) (node : Node) (rest : List Node) :
    changeFirst id change (node :: rest) =
      if node.id = id then change node :: rest else node :: changeFirst id change rest := by
  by_cases found : node.id = id
  · simp [changeFirst, changeNode?, found]
  · cases changed : changeNode? id change rest <;> simp [changeFirst, changeNode?, found, changed]

/-- A change that keeps ids keeps them all in their places, so a later search for an
id finds the same node. -/
theorem map_id_changeFirst (keeps : ∀ node, (change node).id = node.id) (nodes : List Node) :
    (changeFirst id change nodes).map Node.id = nodes.map Node.id := by
  cases changed : changeNode? id change nodes with
  | none => simp [changeFirst, changed]
  | some result => simpa [changeFirst, changed] using map_id_of_changeNode? keeps changed

/-- Nodes of another id may be left out before or after a change, since the node
that is changed is not one of them, before the change or after it. -/
theorem filter_changeFirst (keeps : ∀ node, (change node).id = node.id) (different : id ≠ other)
    (nodes : List Node) :
    (changeFirst id change nodes).filter (fun node => node.id ≠ other) =
      changeFirst id change (nodes.filter fun node => node.id ≠ other) := by
  induction nodes with
  | nil => rfl
  | cons node rest inductionHypothesis =>
    by_cases found : node.id = id
    · have stays : node.id ≠ other := found ▸ different
      simp [changeFirst_cons, found, keeps, different]
    · by_cases leaves : node.id = other
      · rw [changeFirst_cons, if_neg found, List.filter_cons_of_neg (by simpa using leaves),
          inductionHypothesis, List.filter_cons_of_neg (by simpa using leaves)]
      · rw [changeFirst_cons, if_neg found, List.filter_cons_of_pos (by simpa using leaves),
          inductionHypothesis, List.filter_cons_of_pos (by simpa using leaves), changeFirst_cons,
          if_neg found]

/-- Nodes of two ids may be changed in either order. The two changes take different
nodes, and neither of them turns a node into one that the other would take. -/
theorem changeFirst_comm (keeps : ∀ node, (change node).id = node.id)
    (keeps' : ∀ node, (change' node).id = node.id) (different : id ≠ other) (nodes : List Node) :
    changeFirst other change' (changeFirst id change nodes) =
      changeFirst id change (changeFirst other change' nodes) := by
  induction nodes with
  | nil => rfl
  | cons node rest inductionHypothesis =>
    by_cases first : node.id = id
    · have second : node.id ≠ other := first ▸ different
      simp only [changeFirst_cons, first, keeps, different, if_true, if_false]
    · by_cases second : node.id = other
      · simp only [changeFirst_cons, second, keeps', different.symm, if_true, if_false]
      · simp only [changeFirst_cons, first, second, if_false, inductionHypothesis]

end Change

/-- Whether a node has an id depends on the list of ids only, so a change that keeps
ids does not matter for it. -/
theorem contains_congr {diagram other : Diagram}
    (same : diagram.nodes.map Node.id = other.nodes.map Node.id) (id : String) :
    diagram.contains id = other.contains id := by
  have ids (diagram : Diagram) :
      diagram.contains id = (diagram.nodes.map Node.id).any fun other => other = id := by
    simp [contains, List.any_map, Function.comp_def]
  rw [ids, ids, same]

/-- Leaving out the nodes of an id does not change whether a node has another one.
-/
theorem contains_without {diagram : Diagram} {id other : String} (different : other ≠ id) :
    (diagram.without id).contains other = diagram.contains other := by
  rw [Bool.eq_iff_iff, contains_eq_true_iff, contains_eq_true_iff]
  constructor
  · rintro ⟨node, member, rfl⟩
    exact ⟨node, (List.mem_filter.mp member).1, rfl⟩
  · rintro ⟨node, member, rfl⟩
    exact ⟨node, List.mem_filter.mpr ⟨member, decide_eq_true different⟩, rfl⟩

/-- Ids may be left out in either order, as both orders leave out the nodes and
connections of both. -/
theorem without_comm (diagram : Diagram) (id other : String) :
    (diagram.without id).without other = (diagram.without other).without id := by
  simp [without, List.filter_filter, Bool.and_comm]

/-- An edit of an id removes its nodes, or changes the first of them and keeps its
id. The facts below have these two cases and not one for each kind of edit. -/
theorem Edit.target_cases {edit : Edit} {id : String} (about : edit.target? = some id) :
    edit = .removeNode id ∨ ∃ change : Node → Node, (∀ node, (change node).id = node.id) ∧
      ∀ diagram : Diagram, diagram.edit edit = diagram.withNode id change := by
  cases edit with
  | removeNode _ => exact Or.inl (congrArg Edit.removeNode (Option.some.inj about))
  | setPayload _ payload =>
    obtain rfl := Option.some.inj about
    exact Or.inr ⟨fun node => { node with payload }, fun _ => rfl, fun _ => rfl⟩
  | moveNode _ position =>
    obtain rfl := Option.some.inj about
    exact Or.inr ⟨fun node => { node with position }, fun _ => rfl, fun _ => rfl⟩
  | addNode _ | replaceNodes _ | replaceEdges _ | addEdge _ => cases about

/-- The diagram after a removal. Where no node has the id, connections at it stay as
well, since the edit has nothing to do then. -/
theorem edited_removeNode (diagram : Diagram) (id : String) :
    diagram.edited (.removeNode id) =
      if diagram.contains id then diagram.without id else diagram := by
  cases present : diagram.contains id <;> simp [edited, edit, without, present]

/-- The diagram after a change of a node. If no node has the id the edit is refused,
and the list is as it was. -/
theorem edited_of_withNode {diagram : Diagram} {edit : Edit} {id : String}
    {change : Node → Node} (changes : diagram.edit edit = diagram.withNode id change) :
    diagram.edited edit = { diagram with nodes := changeFirst id change diagram.nodes } := by
  cases changed : changeNode? id change diagram.nodes <;>
    simp [edited, changes, withNode, changeFirst, changed]

/-- The answer to an edit of an id depends on whether a node has it, and on nothing
else in the diagram. This is why other edits do not change it. -/
theorem answer_congr {diagram other : Diagram} {edit : Edit} {id : String}
    (about : edit.target? = some id) (same : diagram.contains id = other.contains id) :
    diagram.answer edit = other.answer edit := by
  have carried : diagram.Carries id ↔ other.Carries id := by
    rw [← contains_eq_true_iff, same, contains_eq_true_iff]
  rcases Edit.target_cases about with rfl | ⟨change, -, changes⟩
  · cases present : other.contains id <;> rw [present] at same <;>
      simp [answer, Diagram.edit, same, present, Except.map]
  · rw [answer, answer, changes, changes]
    rcases diagram.withNode_cases id change with ⟨present, edited, done⟩ | ⟨absent, refused⟩
    · rcases other.withNode_cases id change with ⟨-, edited', done'⟩ | ⟨absent, -⟩
      · rw [done, done']
        rfl
      · exact absurd (carried.mp present) absent
    · rcases other.withNode_cases id change with ⟨present, -⟩ | ⟨-, refused'⟩
      · exact absurd (carried.mpr present) absent
      · rw [refused, refused']

/-- An edit of an id does not change whether a node has another one: a removal takes
other nodes, and a change keeps the id. -/
theorem contains_edited {diagram : Diagram} {edit : Edit} {id other : String}
    (about : edit.target? = some id) (different : other ≠ id) :
    (diagram.edited edit).contains other = diagram.contains other := by
  rcases Edit.target_cases about with rfl | ⟨change, keeps, changes⟩
  · rw [edited_removeNode]
    split
    · exact contains_without different
    · rfl
  · rw [edited_of_withNode (changes diagram)]
    exact contains_congr (map_id_changeFirst keeps diagram.nodes) other

section Two

variable {first second : Edit} {id other : String}

/-- What is answered to an edit does not change with an edit of another id, whether
that one is carried out or not. -/
theorem answer_edited (about : first.target? = some id) (about' : second.target? = some other)
    (different : id ≠ other) (diagram : Diagram) :
    (diagram.edited first).answer second = diagram.answer second :=
  answer_congr about' (contains_edited about different.symm)

/-- A removal and a change of nodes of different ids lead to one diagram in either
order. Whether the removal has something to do is the same before and after the
change. -/
theorem edited_removeNode_comm {edit : Edit} {change : Node → Node}
    (keeps : ∀ node, (change node).id = node.id)
    (changes : ∀ diagram : Diagram, diagram.edit edit = diagram.withNode other change)
    (different : id ≠ other) (diagram : Diagram) :
    (diagram.edited (.removeNode id)).edited edit =
      (diagram.edited edit).edited (.removeNode id) := by
  have ids : ({ diagram with nodes := changeFirst other change diagram.nodes } : Diagram).contains
      id = diagram.contains id := contains_congr (map_id_changeFirst keeps diagram.nodes) id
  rw [edited_of_withNode (changes diagram), edited_of_withNode (changes _), edited_removeNode,
    edited_removeNode, ids]
  split
  · exact congrArg (Diagram.mk · _) (filter_changeFirst keeps different.symm diagram.nodes).symm
  · rfl

/-- Edits of different ids lead to one diagram in either order. There are four
cases, as each of the two removes nodes or changes one. -/
theorem edited_comm (about : first.target? = some id) (about' : second.target? = some other)
    (different : id ≠ other) (diagram : Diagram) :
    (diagram.edited first).edited second = (diagram.edited second).edited first := by
  rcases Edit.target_cases about with rfl | ⟨change, keeps, changes⟩
  · rcases Edit.target_cases about' with rfl | ⟨change', keeps', changes'⟩
    · -- an id that is not there is left out by neither
      simp only [edited_removeNode]
      by_cases present : diagram.contains id = true
      · by_cases present' : diagram.contains other = true
        · simp [present, present', contains_without different, contains_without different.symm,
            without_comm diagram id other]
        · simp [present, present', contains_without different.symm]
      · by_cases present' : diagram.contains other = true
        · simp [present, present', contains_without different]
        · simp [present, present']
    · exact edited_removeNode_comm keeps' changes' different diagram
  · rcases Edit.target_cases about' with rfl | ⟨change', keeps', changes'⟩
    · exact (edited_removeNode_comm keeps changes different.symm diagram).symm
    · rw [edited_of_withNode (changes diagram), edited_of_withNode (changes' diagram),
        edited_of_withNode (changes _), edited_of_withNode (changes' _)]
      exact congrArg (Diagram.mk · _) (changeFirst_comm keeps keeps' different diagram.nodes)

end Two

end Diagram

/-- The number of entries after one is recorded behind those up to the cursor. It is
told from the cursor and the limit alone, so that it does not depend on the order of
edits. -/
def Timeline.kept (limit : Option Nat) (cursor : Nat) : Nat :=
  limit.elim (cursor + 2) fun limit => min (cursor + 2) (max 1 limit)

/-- What a workspace shows and how far it is in its timeline, whatever the entries
are. The entries do depend on the order of edits, and this is what is left when they
are put aside. -/
structure Standing where
  view : View
  cursor : Nat
  length : Nat
deriving DecidableEq

/-- The standing after an edit. An edit that is recorded shows the code of the
edited diagram, in place of a text of the user if there was one, and any other edit
leaves everything. -/
def Standing.after (generator : GeneratorSettings) (limit : Option Nat) (standing : Standing)
    (edit : Diagram.Edit) : Standing :=
  let diagram := standing.view.diagram
  if diagram.answer edit = .ok true then
    { view := Entry.view generator { diagram := diagram.edited edit }
      cursor := Timeline.kept limit standing.cursor - 1
      length := Timeline.kept limit standing.cursor }
  else standing

/-- Edits of different ids lead to one standing in either order. If both are
recorded, the cursor moves on twice; if only one is, it moves on once, before or
after the other edit. -/
theorem Standing.after_comm {first second : Diagram.Edit} {id other : String}
    (about : first.target? = some id) (about' : second.target? = some other)
    (different : id ≠ other) (generator : GeneratorSettings) (limit : Option Nat)
    (standing : Standing) :
    (standing.after generator limit first).after generator limit second =
      (standing.after generator limit second).after generator limit first := by
  have unmoved := Diagram.answer_edited about about' different standing.view.diagram
  have unmoved' := Diagram.answer_edited about' about different.symm standing.view.diagram
  have same := Diagram.edited_comm about about' different standing.view.diagram
  by_cases recorded : standing.view.diagram.answer first = .ok true
  · by_cases recorded' : standing.view.diagram.answer second = .ok true
    · simp [after, recorded, recorded', Entry.view, unmoved, unmoved', same]
    · simp [after, recorded, recorded', Entry.view, unmoved]
  · by_cases recorded' : standing.view.diagram.answer second = .ok true
    · simp [after, recorded, recorded', Entry.view, unmoved']
    · simp [after, recorded, recorded']

namespace Workspace

open Diagram (Edit Independent)

/-- What is shown, and how far the timeline is. This is the part of a workspace that
edits of different ids agree on. -/
def standing (workspace : Workspace) : Standing :=
  ⟨workspace.view, workspace.timeline.cursor, workspace.timeline.length⟩

/-- Changes that are made one after another, each with what is answered to it. The
pairs are what can be compared between two orders, as the answers come in another
order too. -/
def answered (workspace : Workspace) : List Change → List (Change × Except Refusal Bool)
  | [] => []
  | change :: rest =>
    (change, (workspace.apply change).1) :: (workspace.apply change).2.answered rest

/-- An edit is answered as the live diagram answers it, and leads to the edited
diagram. The rest of the workspace plays no part in either. -/
theorem apply_edit (workspace : Workspace) (edit : Edit) :
    (workspace.apply (.edit edit)).1 = workspace.diagram.answer edit ∧
      (workspace.apply (.edit edit)).2.diagram = workspace.diagram.edited edit := by
  rcases result : workspace.diagram.edit edit with refusal | _ | diagram <;>
    simp [apply, Diagram.answer, Diagram.edited, result, Except.map, record, regenerate]

/-- An edit takes the standing of a workspace to the one after it. The cursor has to
be on an entry for the number of entries to be told from it. -/
theorem standing_apply {workspace : Workspace} (onEntry : workspace.timeline.OnEntry)
    (edit : Edit) :
    (workspace.apply (.edit edit)).2.standing =
      workspace.standing.after workspace.settings.generator workspace.timeline.limit edit := by
  obtain ⟨answer, diagram⟩ := workspace.apply_edit edit
  by_cases recorded : (workspace.apply (.edit edit)).1 = .ok true
  · have timeline := timeline_of_ok_true recorded
    have length : (workspace.apply (.edit edit)).2.timeline.length =
        Timeline.kept workspace.timeline.limit workspace.timeline.cursor := by
      rw [timeline]
      exact Timeline.length_record onEntry _
    have cursor : (workspace.apply (.edit edit)).2.timeline.cursor + 1 =
        (workspace.apply (.edit edit)).2.timeline.length := by
      rw [timeline]
      exact Timeline.cursor_record _ _
    have shown : (workspace.apply (.edit edit)).2.view = Entry.view workspace.settings.generator
        { diagram := workspace.diagram.edited edit } := by
      have applied : workspace.apply (.edit edit) = (.ok true, (workspace.apply (.edit edit)).2) :=
        Prod.ext recorded rfl
      obtain ⟨result, -, next⟩ := eq_of_recorded applied
      rw [← diagram, next]
      rfl
    have after : workspace.standing.after workspace.settings.generator workspace.timeline.limit
        edit = ⟨Entry.view workspace.settings.generator
          { diagram := workspace.diagram.edited edit },
          Timeline.kept workspace.timeline.limit workspace.timeline.cursor - 1,
          Timeline.kept workspace.timeline.limit workspace.timeline.cursor⟩ :=
      if_pos (answer.symm.trans recorded)
    rw [after, standing, shown, ← length, ← cursor, Nat.add_sub_cancel]
  · rcases workspace.apply_cases (.edit edit) with ⟨-, same⟩ | ⟨changed, applied, -⟩
    · rw [same, Standing.after, if_neg]
      exact fun recorded' => recorded (answer.trans recorded')
    · exact absurd (congrArg Prod.fst applied) recorded

/-- Edits take the standing of a coherent workspace to the one after each of them in
turn, by induction on the edits. Coherence is what keeps the cursor on an entry. -/
theorem Coherent.standing_applyAll {workspace : Workspace} (coherent : workspace.Coherent)
    (edits : List Edit) :
    (workspace.applyAll (edits.map .edit)).standing =
      edits.foldl (Standing.after workspace.settings.generator workspace.timeline.limit)
        workspace.standing := by
  induction edits generalizing workspace with
  | nil => rfl
  | cons edit rest inductionHypothesis =>
    obtain ⟨entry, onEntry, -⟩ := id coherent
    have inside : workspace.timeline.OnEntry := (List.getElem?_eq_some_iff.mp onEntry).1
    have later := inductionHypothesis (coherent.act (.change (.edit edit)))
    rw [act_settings, act_limit] at later
    rw [List.foldl_cons, ← standing_apply inside]
    exact later

/-- Independent edits are answered as each of them is answered at first. By
induction on the edits: each of them leaves the answers to all the others as they
are. -/
theorem answered_of_independent {edits : List Edit} (independent : Independent edits)
    (workspace : Workspace) :
    workspace.answered (edits.map .edit) =
      edits.map fun edit => (.edit edit, workspace.diagram.answer edit) := by
  induction edits generalizing workspace with
  | nil => rfl
  | cons edit rest inductionHypothesis =>
    obtain ⟨targeted, others⟩ := List.forall_mem_cons.mp independent.targeted
    obtain ⟨apart, distinct⟩ := List.nodup_cons.mp independent.distinct
    obtain ⟨id, about⟩ := Option.isSome_iff_exists.mp targeted
    obtain ⟨answer, diagram⟩ := workspace.apply_edit edit
    -- what is answered to the others is not changed by the first one
    have unmoved : ∀ later ∈ rest, (workspace.diagram.edited edit).answer later =
        workspace.diagram.answer later := by
      intro later member
      obtain ⟨other, about'⟩ := Option.isSome_iff_exists.mp (others later member)
      refine Diagram.answer_edited about about' ?_ _
      rintro rfl
      exact apart (List.mem_map.mpr ⟨later, member, about'.trans about.symm⟩)
    rw [List.map_cons, answered, inductionHypothesis ⟨others, distinct⟩, answer, diagram]
    exact congrArg (_ :: ·) (List.map_congr_left fun later member => by rw [unmoved later member])

/-- In every state that a new workspace can come to, with any limit, take removals
of nodes, new payloads and new places, for ids that are pairwise different, whether
nodes have them or not. In any two orders each of these edits is answered alike,
namely as it would be answered alone, and the same is live in the end: nodes,
connections, code, and whether the code is a text of the user. The cursor is at the
same place, and there are as many entries.

Proof: edits are folded over the standing of the workspace, and a fold of steps that
commute pairwise does not depend on the order of a list. -/
theorem independent_edits_commute (settings : WorkspaceSettings) (actions : List Action)
    {edits reordered : List Edit} (independent : Independent edits)
    (same : edits.Perm reordered) :
    let origin := (start settings).run actions
    let final := origin.applyAll (edits.map .edit)
    let other := origin.applyAll (reordered.map .edit)
    (origin.answered (edits.map .edit)).Perm (origin.answered (reordered.map .edit)) ∧
      (∀ edit answer, (Change.edit edit, answer) ∈ origin.answered (edits.map .edit) →
        answer = (origin.apply (.edit edit)).1) ∧
      final.diagram.nodes = other.diagram.nodes ∧ final.diagram.edges = other.diagram.edges ∧
      final.code = other.code ∧ final.overridden = other.overridden ∧
      final.timeline.cursor = other.timeline.cursor ∧
      final.timeline.length = other.timeline.length := by
  intro origin final other
  have coherent : origin.Coherent := (start_coherent settings).run actions
  have independent' : Independent reordered :=
    ⟨fun edit member => independent.targeted edit (same.mem_iff.mpr member),
      (same.map _).nodup_iff.mp independent.distinct⟩
  have commute : ∀ first ∈ edits, ∀ second ∈ edits, ∀ standing : Standing,
      (standing.after origin.settings.generator origin.timeline.limit first).after
          origin.settings.generator origin.timeline.limit second =
        (standing.after origin.settings.generator origin.timeline.limit second).after
          origin.settings.generator origin.timeline.limit first := by
    intro first member second member' standing
    obtain ⟨id, about⟩ := Option.isSome_iff_exists.mp (independent.targeted first member)
    obtain ⟨id', about'⟩ := Option.isSome_iff_exists.mp (independent.targeted second member')
    by_cases different : id = id'
    · -- edits of one id are one edit
      obtain rfl : first = second :=
        List.inj_on_of_nodup_map independent.distinct member member'
          (about.trans (different ▸ about'.symm))
      rfl
    · exact Standing.after_comm about about' different _ _ standing
  have standing : final.standing = other.standing := by
    rw [coherent.standing_applyAll edits, coherent.standing_applyAll reordered]
    exact same.foldl_eq' commute origin.standing
  obtain ⟨view, cursor, length⟩ := Standing.mk.inj standing
  obtain ⟨diagram, code, overridden⟩ := View.mk.inj view
  refine ⟨?_, ?_, congrArg Diagram.nodes diagram, congrArg Diagram.edges diagram, code,
    overridden, cursor, length⟩
  · rw [answered_of_independent independent, answered_of_independent independent']
    exact same.map _
  · intro edit answer member
    rw [answered_of_independent independent] at member
    obtain ⟨_, -, answers⟩ := List.mem_map.mp member
    obtain ⟨edits, rfl⟩ := Prod.mk.inj answers
    obtain rfl := Change.edit.inj edits
    exact (origin.apply_edit _).1.symm

/-- Five edits are made in one order and in the other one, within a limit of two
entries and in place of a text of the user. One takes both nodes of an id with the
connections at them, one makes a network an instance, so that another instance is
placed nowhere, one moves that other instance, one is refused, and one has nothing
to do. -/
theorem five_edits_reversed :
    let network (name : String) : Payload := .network ⟨name, "10.0.0.0/16", Table.empty⟩
    let machine : Payload := .compute { instanceType := "t2.micro", machineImage := "ami-1" }
    let nodes : List Node :=
      [⟨"n", network "first", .origin⟩, ⟨"c", machine, .origin⟩, ⟨"n", network "again", .origin⟩,
        ⟨"m", network "main", .origin⟩]
    let edges : List Connection := [⟨"e1", "c", "n"⟩, ⟨"e2", "c", "m"⟩, ⟨"e3", "gone", "n"⟩]
    let settings : WorkspaceSettings := { entryLimit := some 2 }
    let actions : List Action := [.change (.edit (.replaceNodes nodes)),
      .change (.edit (.replaceEdges edges)), .change (.overrideCode "draft"), .undo, .redo]
    let edits : List Edit := [.removeNode "n", .setPayload "m" machine,
      .moveNode "c" ⟨.nan, .zero⟩, .setPayload "gone" machine, .removeNode "lost"]
    let origin := (start settings).run actions
    let final := origin.applyAll (edits.map .edit)
    let other := origin.applyAll (edits.reverse.map .edit)
    Independent edits ∧ edits.Perm edits.reverse ∧
      (origin.answered (edits.map .edit)).map Prod.snd =
        [.ok true, .ok true, .ok true, .error (.unknownNode "gone"), .ok false] ∧
      (origin.answered (edits.map .edit)).Perm (origin.answered (edits.reverse.map .edit)) ∧
      (∀ edit answer, (Change.edit edit, answer) ∈ origin.answered (edits.map .edit) →
        answer = (origin.apply (.edit edit)).1) ∧
      final.diagram.nodes = other.diagram.nodes ∧ final.diagram.edges = other.diagram.edges ∧
      final.code = other.code ∧ final.overridden = other.overridden ∧
      final.timeline.cursor = other.timeline.cursor ∧
      final.timeline.length = other.timeline.length := by
  intro network machine nodes edges settings actions edits origin final other
  have independent : Independent edits := by decide +kernel
  have same : edits.Perm edits.reverse := edits.reverse_perm.symm
  have answers : (origin.answered (edits.map .edit)).map Prod.snd =
      [.ok true, .ok true, .ok true, .error (.unknownNode "gone"), .ok false] := by
    decide +kernel
  -- from here on it does not matter what the edits are
  clear_value edits actions settings
  exact ⟨independent, same, answers, independent_edits_commute settings actions independent same⟩

end Workspace

end CloudDiagram
