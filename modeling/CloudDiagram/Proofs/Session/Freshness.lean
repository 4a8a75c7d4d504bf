import CloudDiagram.Diagram.Wire
import CloudDiagram.Proofs.Session.Operations

/-!
# Ids that were made up are new

A process has one registry, which all its workspaces share. Texts are read into it, whether
the reading ends well or in a fault, ids are met in it, and ids are made up from any stem, for
a node that is placed without a workspace, or for a resource or a connection of a workspace.

Every id in a workspace, live or in an entry, is known to the registry, as nothing reaches a
workspace but through it and nothing is forgotten. So an id that is made up is in none of them,
and a resource with such an id is never refused.

The numbers of ids are words, and after the largest one they start over. What is said here is
said of runs in which that does not happen.
-/

namespace CloudDiagram

/-- A connection was appended to the live diagram, and its id is used nowhere else:
it was in no diagram before, it is not an end of the connection, and it is in no
entry before the current one. -/
structure FreshConnection (before after : Workspace) (edge : Connection) : Prop where
  appended : after.diagram = { before.diagram with edges := before.diagram.edges ++ [edge] }
  unused : edge.id ∉ before.ids
  source_ne : edge.source ≠ edge.id
  target_ne : edge.target ≠ edge.id
  earlier : ∀ entry ∈ after.timeline.entries.take after.timeline.cursor,
    edge.id ∉ entry.diagram.ids

namespace Session

/-- The registry knows every id in the workspace, in the live diagram and in all
entries. -/
def Informed (session : Session) : Prop :=
  ∀ id ∈ session.workspace.ids, session.registry.knows id = true

/-- An id that is new to an informed session is not that of a live node, so a node
may be added under it. -/
theorem Informed.contains_eq_false {session : Session} (informed : session.Informed) {id : String}
    (unknown : session.registry.knows id = false) :
    session.workspace.diagram.contains id = false := by
  rw [Diagram.contains, List.any_eq_false]
  intro node member same
  obtain rfl : node.id = id := of_decide_eq_true same
  have present : node.id ∈ session.workspace.ids :=
    List.mem_flatMap.mpr ⟨session.workspace.diagram, List.mem_cons_self,
      List.mem_append_left _ (List.mem_map_of_mem member)⟩
  rw [informed node.id present] at unknown
  cases unknown

/-- A preset resource is added under the id that was made up. It is never refused,
because the id is new. -/
theorem Informed.addResource {session : Session} (informed : session.Informed) {kind : Kind}
    (can : session.registry.CanNumber kind.tag) (position : Position) :
    (session.addResource kind position).1 = .ok (session.registry.fresh kind.tag).1 := by
  obtain ⟨number, -, -, unknown, -, made⟩ := Registry.fresh_eq can
  have free := informed.contains_eq_false unknown
  simp [Session.addResource, Preset.place, Session.apply, Workspace.apply, Diagram.edit, made, free,
    Except.map]

/-- A connection whose id is given is new. Its ends were met before the id was made
up, so the id is none of them. -/
theorem Informed.connect {session : Session} (informed : session.Informed)
    {source target id : String} (can : (session.ready source target).CanNumber "edge")
    (given : (session.connect source target).1 = some id) :
    FreshConnection session.workspace (session.connect source target).2.workspace
      ⟨id, source, target⟩ := by
  obtain ⟨rfl, recorded⟩ := connect_eq_some given
  obtain ⟨number, -, -, unknown, -, made⟩ := Registry.fresh_eq can
  have name : (session.nextEdge source target).id = numberedId "edge" number := by
    simp [nextEdge, made]
  rw [← name] at unknown
  simp only [ready, Registry.knows_learn, Bool.or_eq_false_iff, beq_eq_false_iff_ne] at unknown
  obtain ⟨notTarget, notSource, unknown⟩ := unknown
  have unused : (session.nextEdge source target).id ∉ session.workspace.ids := by
    intro present
    rw [informed _ present] at unknown
    cases unknown
  rw [workspace_connect, Workspace.apply_addEdge recorded]
  refine ⟨rfl, unused, notSource.symm, notTarget.symm, ?_⟩
  intro entry member
  have older : entry ∈ session.workspace.timeline.entries :=
    Timeline.take_cursor_record_subset _ _ member
  intro inside
  exact unused (List.mem_flatMap.mpr
    ⟨entry.diagram, List.mem_cons_of_mem _ (List.mem_map_of_mem older), inside⟩)

end Session

/-- The texts in which ids are read, one for each reader. -/
inductive Document where
  | node
  | nodes
  | connection
  | connections
  | diagram
deriving DecidableEq

/-- The ids met in a text, up to the fault if there is one. -/
def Document.seen (text : String) : Document → List String
  | node => (Node.ofText text).seen
  | nodes => (Node.listOfText text).seen
  | connection => (Connection.ofText text).seen
  | connections => (Connection.listOfText text).seen
  | diagram => (Diagram.ofText text).seen

/-- The registry and the workspaces that share it. Workspaces do not see each other
otherwise. -/
structure Process where
  registry : Registry := {}
  workspaces : List Workspace := []

/-- What a process may do next. Texts may also be read outside of any workspace,
which makes their ids known all the same. -/
inductive Step where
  /-- Meet an id. -/
  | meet (id : String)
  /-- Read a text. -/
  | read (document : Document) (text : String)
  /-- Make an id up from a stem. -/
  | make (stem : String)
  /-- Make a preset node, without a workspace. -/
  | place (kind : Kind) (position : Position)
  /-- Start another workspace. -/
  | start (settings : WorkspaceSettings)
  /-- Ask something of the workspace of a number, if there is one. -/
  | operate (index : Nat) (operation : Operation)
deriving DecidableEq

namespace Process

/-- The process before it did anything. -/
def empty : Process := {}

/-- The workspace of a number as a session: it is given the registry of the process.
-/
def session? (process : Process) (index : Nat) : Option Session :=
  process.workspaces[index]?.map fun workspace => { registry := process.registry, workspace }

/-- What the registry is asked for in a step. It does not depend on how the step
ends. -/
def requests (process : Process) : Step → List IdRequest
  | .meet id => [.meet id]
  | .read document text => (document.seen text).map .meet
  | .make stem => [.make stem]
  | .place kind _ => [.make kind.tag]
  | .start _ => []
  | .operate index operation =>
    match process.session? index with
    | some _ => operation.requests
    | none => []

/-- Do one step. An operation is done in the session of its workspace, and the
registry is handed back to the process. -/
def step (process : Process) : Step → Process
  | .meet id => { process with registry := process.registry.learn id }
  | .read document text =>
    { process with registry := process.registry.learnAll (document.seen text) }
  | .make stem => { process with registry := (process.registry.fresh stem).2 }
  | .place kind position =>
    { process with registry := (Preset.place process.registry kind position).2 }
  | .start settings => { process with workspaces := process.workspaces ++ [.start settings] }
  | .operate index operation =>
    match process.session? index with
    | some session =>
      { registry := (session.operate operation).registry
        workspaces := process.workspaces.set index (session.operate operation).workspace }
    | none => process

/-- Do one step after another. -/
def run (process : Process) (steps : List Step) : Process := steps.foldl step process

/-- What the registry is asked for in one step after another. A later step may ask
for something else if there are other workspaces by then. -/
def allRequests (process : Process) : List Step → List IdRequest
  | [] => []
  | step :: rest => process.requests step ++ (process.step step).allRequests rest

/-- What happens to ids in one step after another, in the order in which it happens.
-/
def history (process : Process) (steps : List Step) : List IdEvent :=
  process.registry.log (process.allRequests steps)

/-- In these steps the count of numbers does not start over. -/
def Unwrapped (process : Process) (steps : List Step) : Prop :=
  process.registry.Unwrapped (process.allRequests steps)

/-- In one of these steps the operation is asked of the session. The session is the
workspace as it is by then, with the registry as it is by then. -/
def Asks (process : Process) (steps : List Step) (session : Session) (operation : Operation) :
    Prop :=
  ∃ before index after, steps = before ++ .operate index operation :: after ∧
    (process.run before).session? index = some session

/-- The registry knows every id in every workspace. All runs of a process keep it
so. -/
def Informed (process : Process) : Prop :=
  ∀ workspace ∈ process.workspaces, ∀ id ∈ workspace.ids, process.registry.knows id = true

/-- The registry after a step is the one that did what the step asks. What texts and
operations do with ids comes down to meeting ids and making them up. -/
theorem registry_step (process : Process) (step : Step) :
    (process.step step).registry = process.registry.performAll (process.requests step) := by
  cases step with
  | meet id => rfl
  | read document text => exact process.registry.learnAll_eq_performAll (document.seen text)
  | make stem => rfl
  | place kind position => rfl
  | start settings => rfl
  | operate index operation =>
    cases found : process.session? index with
    | none => simp [Process.step, requests, found, Registry.performAll]
    | some session =>
      obtain ⟨workspace, -, rfl⟩ := Option.map_eq_some_iff.mp found
      simp only [Process.step, requests, found]
      exact Session.registry_operate _ operation

/-- The registry after some steps is the one that did what the steps ask, one after
another. -/
theorem registry_run (process : Process) (steps : List Step) :
    (process.run steps).registry =
      process.registry.performAll (process.allRequests steps) := by
  induction steps generalizing process with
  | nil => rfl
  | cons step rest inductionHypothesis =>
    change ((process.step step).run rest).registry = _
    rw [inductionHypothesis, registry_step, allRequests, Registry.performAll_append]

/-- What is asked for in steps in parts: the second part is asked for by the process
that the first part has left. -/
theorem allRequests_append (process : Process) (first second : List Step) :
    process.allRequests (first ++ second) =
      process.allRequests first ++ (process.run first).allRequests second := by
  induction first generalizing process with
  | nil => rfl
  | cons step rest inductionHypothesis =>
    rw [List.cons_append, allRequests, inductionHypothesis, allRequests, List.append_assoc]
    rfl

/-- A workspace of an informed process is an informed session. -/
theorem Informed.session {process : Process} (informed : process.Informed) {index : Nat}
    {session : Session} (found : process.session? index = some session) : session.Informed := by
  obtain ⟨workspace, present, rfl⟩ := Option.map_eq_some_iff.mp found
  exact informed workspace (List.mem_of_getElem? present)

/-- Every step keeps a process informed. What an operation brings into its workspace
was met or made up in it, and what the other workspaces hold was known already. -/
theorem Informed.step {process : Process} (informed : process.Informed) (step : Step) :
    (process.step step).Informed := by
  intro workspace member id inside
  -- an id that was known is known after the step
  have kept (known : process.registry.knows id = true) :
      (process.step step).registry.knows id = true := by
    rw [registry_step]
    exact Registry.knows_performAll_of_knows known _
  cases step with
  | meet other => exact kept (informed workspace member id inside)
  | read document text => exact kept (informed workspace member id inside)
  | make stem => exact kept (informed workspace member id inside)
  | place kind position => exact kept (informed workspace member id inside)
  | start settings =>
    rcases List.mem_append.mp member with older | new
    · exact kept (informed workspace older id inside)
    · obtain rfl := List.mem_singleton.mp new
      cases inside
  | operate index operation =>
    cases found : process.session? index with
    | none =>
      simp only [Process.step, found] at member
      exact kept (informed workspace member id inside)
    | some session =>
      have later : (process.step (.operate index operation)).registry =
          (session.operate operation).registry := by
        simp [Process.step, found]
      simp only [Process.step, found] at member
      rcases List.mem_or_eq_of_mem_set member with other | rfl
      · exact kept (informed workspace other id inside)
      · rcases Session.mem_ids_operate inside with older | known
        · obtain ⟨before, present, rfl⟩ := Option.map_eq_some_iff.mp found
          exact kept (informed before (List.mem_of_getElem? present) id older)
        · rw [later]
          exact known

/-- Every run keeps a process informed, by induction over its steps. -/
theorem Informed.run {process : Process} (informed : process.Informed) (steps : List Step) :
    (process.run steps).Informed := by
  induction steps generalizing process with
  | nil => exact informed
  | cons step rest inductionHypothesis => exact inductionHypothesis (informed.step step)

/-- Where an operation is asked of a session in a run, the session is informed, the
count does not start over in the operation, and what happens to ids is part of the
run. -/
theorem Asks.spec {process : Process} {steps : List Step} {session : Session}
    {operation : Operation} (asks : process.Asks steps session operation)
    (informed : process.Informed) (unwrapped : process.Unwrapped steps) :
    session.Informed ∧ session.registry.Unwrapped operation.requests ∧
      session.registry.log operation.requests ⊆ process.history steps := by
  obtain ⟨before, index, after, rfl, found⟩ := asks
  have registry : session.registry =
      process.registry.performAll (process.allRequests before) := by
    obtain ⟨workspace, -, rfl⟩ := Option.map_eq_some_iff.mp found
    exact process.registry_run before
  have asked : process.allRequests (before ++ .operate index operation :: after) =
      process.allRequests before ++ (operation.requests ++
        ((process.run before).step (.operate index operation)).allRequests after) := by
    simp [allRequests_append, allRequests, requests, found]
  rw [Unwrapped, asked, Registry.unwrapped_append, Registry.unwrapped_append,
    ← registry] at unwrapped
  refine ⟨(informed.run before).session found, unwrapped.2.1, ?_⟩
  rw [history, asked, Registry.log_append, Registry.log_append, ← registry]
  exact List.subset_append_of_subset_right _ (List.subset_append_left ..)

/-- In every run of a process, in which texts are read with or without a fault, ids
are met and made up, and workspaces do what is asked of them: the registry knows the
ids of the run's history. An id that was made up has a number behind its stem and a
dash, which is read back from it, and no earlier event of the history was about it.
So no id is made up twice, a preset resource is never refused, unless there is no
such kind, and the id that is given for a connection is new to the diagram and to
all entries. -/
theorem made_ids_are_new {steps : List Step} (unwrapped : empty.Unwrapped steps) :
    (∀ sought, (empty.run steps).registry.knows sought = true ↔
      ∃ event ∈ empty.history steps, event.id = sought) ∧
    (∀ before stem id after, empty.history steps = before ++ .made stem id :: after →
      (∃ number : Nat, id = stem ++ "-" ++ toString number ∧
        idNumber? id = some (toString number)) ∧
      ∀ event ∈ before, event.id ≠ id) ∧
    ((empty.history steps).filterMap IdEvent.made?).Nodup ∧
    (∀ session kind position, empty.Asks steps session (.addResource kind position) →
      ∃ id, (session.addResource kind position).1 = .ok id ∧
        .made kind.tag id ∈ empty.history steps) ∧
    (∀ session tag position, empty.Asks steps session (.addTagged tag position) →
      ∀ refusal, (session.addTagged tag position).1 = .error refusal →
        Kind.ofTag? tag = none ∧ refusal = .unknownKind tag) ∧
    ∀ session source target, empty.Asks steps session (.connect source target) →
      ∀ id, (session.connect source target).1 = some id →
        .made "edge" id ∈ empty.history steps ∧
        FreshConnection session.workspace (session.connect source target).2.workspace
          ⟨id, source, target⟩ := by
  have informed : empty.Informed := fun _ impossible => nomatch impossible
  refine ⟨?_, ?_, Registry.nodup_made unwrapped, ?_, ?_, ?_⟩
  · intro sought
    rw [registry_run, Registry.knows_performAll]
    exact or_iff_left Bool.false_ne_true
  · intro before stem id after split
    obtain ⟨⟨number, rfl⟩, -, apart⟩ := Registry.made_is_new unwrapped split
    exact ⟨⟨number.toNat, rfl, idNumber?_numberedId stem number⟩, apart⟩
  · intro session kind position asks
    obtain ⟨known, can, part⟩ := asks.spec informed unwrapped
    exact ⟨_, known.addResource can.1 position, part List.mem_cons_self⟩
  · intro session tag position asks refusal refused
    obtain ⟨known, can, -⟩ := asks.spec informed unwrapped
    cases denoted : Kind.ofTag? tag with
    | none =>
      simp only [Session.addTagged, denoted] at refused
      exact ⟨rfl, (Except.error.inj refused).symm⟩
    | some kind =>
      simp only [Operation.requests, denoted] at can
      simp only [Session.addTagged, denoted, known.addResource can.1 position] at refused
      cases refused
  · intro session source target asks id given
    obtain ⟨known, can, part⟩ := asks.spec informed unwrapped
    refine ⟨?_, known.connect can.1 given⟩
    obtain ⟨rfl, -⟩ := Session.connect_eq_some given
    exact part (List.mem_cons_of_mem _ (List.mem_cons_of_mem _ List.mem_cons_self))

/-- Ids come from an argument and from a text with a fault behind its first id; two are made
up without a workspace, one for a resource and one for a connection, which is undone. -/
def shortRun : List Step := [
  .meet "vpc-1", .read .nodes "[\x7b\"id\":\"vpc-2\"\x7d,", .start {}, .make "a-1",
  .operate 0 (.addResource .network .origin), .operate 0 (.connect "vpc-3" "edge-4"),
  .operate 0 .undo, .place .storage .origin]

/-- The ids made up in the short run are new: the numbers of two ids that were met before, one
of them in the text with the fault, are passed over, and so is that of an end of the
connection. -/
theorem made_ids_of_shortRun :
    empty.Unwrapped shortRun ∧
    (empty.history shortRun).filterMap IdEvent.made? = ["a-1-1", "vpc-3", "edge-5", "s3-6"] ∧
    ((empty.history shortRun).filterMap IdEvent.made?).Nodup ∧
    ∃ session, empty.Asks shortRun session (.connect "vpc-3" "edge-4") ∧
      (session.connect "vpc-3" "edge-4").1 = some "edge-5" ∧
      FreshConnection session.workspace (session.connect "vpc-3" "edge-4").2.workspace
        ⟨"edge-5", "vpc-3", "edge-4"⟩ := by
  have asked : empty.allRequests shortRun =
      [.meet "vpc-1", .meet "vpc-2", .make "a-1", .make "vpc", .meet "vpc-3", .meet "edge-4",
        .make "edge", .make "s3"] := by
    decide +kernel
  have unwrapped : empty.Unwrapped shortRun := by
    rw [Unwrapped, asked]
    refine ⟨⟨1, ?_⟩, ⟨3, ?_⟩, ⟨5, ?_⟩, ⟨6, ?_⟩, trivial⟩
    all_goals decide +kernel
  obtain ⟨session, found⟩ : ∃ session, (empty.run (shortRun.take 5)).session? 0 = some session :=
    Option.isSome_iff_exists.mp (by decide +kernel)
  have asks : empty.Asks shortRun session (.connect "vpc-3" "edge-4") :=
    ⟨shortRun.take 5, 0, shortRun.drop 6, rfl, found⟩
  have given : ((empty.run (shortRun.take 5)).session? 0).map
      (fun session => (session.connect "vpc-3" "edge-4").1) = some (some "edge-5") := by
    decide +kernel
  rw [found] at given
  obtain ⟨-, -, distinct, -, -, connections⟩ := made_ids_are_new unwrapped
  have new := connections session "vpc-3" "edge-4" asks "edge-5" (Option.some.inj given)
  exact ⟨unwrapped, by decide +kernel, distinct, session, asks, Option.some.inj given, new.2⟩

end Process

end CloudDiagram
