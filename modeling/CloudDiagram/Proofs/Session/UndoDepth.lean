import CloudDiagram.Proofs.Session.Operations
import CloudDiagram.Proofs.Timeline.Stacks

/-!
# A limit costs undo depth and nothing else

Two sessions start from the same registry with the same generator settings and are asked the
same. One of them has a limit on the entries of its timeline, the other one has none. As stacks,
the timeline of the first is the end of the other: both have the same current entry and the same
future, and the limited past is the end of the whole past. Recording keeps this, since a limit
takes from the bottom of the past. So does going forward, which is possible in both or in neither.

Going back keeps it too, as long as the limited past is not empty. Where it is and the whole past
is not, only one of the sessions goes back, and from there on nothing is said about the two. Up
to there they give the same answers, with the same new ids, and show the same diagram and code.
-/

namespace CloudDiagram

variable {α : Type}

namespace Stacks

/-- The same entries, but for some at the bottom of the past that only the second
stacks have. This is all that a limit can do to stacks that were asked the same. -/
structure EndOf (recent whole : Stacks α) : Prop where
  past : recent.past <:+ whole.past
  current : recent.current = whole.current
  future : recent.future = whole.future

/-- A limit keeps the top of the past, since it is the oldest entries that it takes
away. -/
theorem kept_suffix (limit : Option Nat) (past : List α) : kept limit past <:+ past := by
  cases limit with
  | none => exact List.suffix_refl past
  | some most => exact List.drop_suffix _ past

/-- Recording under a limit takes from the bottom of the past. The limited past was
the end of the other one before, and what is kept of it with the current entry on
top still is. -/
theorem EndOf.record {recent whole : Stacks α} (ends : recent.EndOf whole) (limit : Option Nat)
    (entry : α) : (recent.record limit entry).EndOf (whole.record none entry) := by
  obtain ⟨older, joined⟩ := ends.past
  have longer : recent.past ++ [recent.current] <:+ whole.past ++ [whole.current] :=
    ⟨older, by rw [← joined, ends.current, List.append_assoc]⟩
  exact ⟨(kept_suffix limit _).trans longer, rfl, rfl⟩

/-- Going back leads to the same entry if the past is empty in both or in neither,
since the top of a past that is not empty is the top of every past that it is the
end of. -/
theorem EndOf.undo? {recent whole : Stacks α} (ends : recent.EndOf whole)
    (bottom : recent.undo? = none → whole.undo? = none) :
    Option.Rel (fun first second => first.1 = second.1 ∧ first.2.EndOf second.2)
      recent.undo? whole.undo? := by
  obtain ⟨past, current, future⟩ := recent
  obtain ⟨_, _, _⟩ := whole
  obtain ⟨⟨older, rfl⟩, rfl, rfl⟩ := ends
  cases past using List.reverseRecOn with
  | nil =>
    rw [bottom rfl]
    exact .none
  | append_singleton before previous =>
    simp only [Stacks.undo?, List.getLast?_concat, ← List.append_assoc, Option.map_some,
      List.dropLast_concat]
    exact .some ⟨rfl, ⟨List.suffix_append older before, rfl, rfl⟩⟩

/-- Going forward leads to the same entry. The futures are equal, so nothing is
asked here, and what goes on top of the past is the same entry. -/
theorem EndOf.redo? {recent whole : Stacks α} (ends : recent.EndOf whole) :
    Option.Rel (fun first second => first.1 = second.1 ∧ first.2.EndOf second.2)
      recent.redo? whole.redo? := by
  obtain ⟨past, current, future⟩ := recent
  obtain ⟨_, _, _⟩ := whole
  obtain ⟨⟨older, rfl⟩, rfl, rfl⟩ := ends
  cases future with
  | nil => exact .none
  | cons next later => exact .some ⟨rfl, ⟨⟨older, (List.append_assoc ..).symm⟩, rfl, rfl⟩⟩

end Stacks

namespace Timeline

/-- The same entries, but for some oldest ones that only the second timeline has,
which has no limit; and the same current entry. Both are stacks written out as a
list with a cursor. -/
def EndOf (short long : Timeline α) : Prop :=
  ∃ limit recent whole, short = Stacks.timeline limit recent ∧ long = whole.timeline none ∧
    recent.EndOf whole

/-- Moves to the same entry, after which the one timeline is still the end of the
other; or no move on either side. It is how two answers to one move are compared. -/
abbrev MovedAlike : Option (α × Timeline α) → Option (α × Timeline α) → Prop :=
  Option.Rel fun first second => first.1 = second.1 ∧ first.2.EndOf second.2

/-- Moves of the stacks are moves of the timelines, so what was shown of the stacks
holds of the lists with their cursors. -/
theorem movedAlike_map {first second : Option (α × Stacks α)} (limit : Option Nat)
    (alike : Option.Rel (fun first second => first.1 = second.1 ∧ first.2.EndOf second.2)
      first second) :
    MovedAlike (first.map (Prod.map id (Stacks.timeline limit)))
      (second.map (Prod.map id (Stacks.timeline none))) := by
  cases alike with
  | none => exact .none
  | some moved => exact .some ⟨moved.1, ⟨limit, _, _, rfl, rfl, moved.2⟩⟩

/-- New timelines differ in their limits only. Both hold one entry, which every
limit leaves room for. -/
theorem endOf_start (first : α) (limit : Option Nat) :
    (start first limit).EndOf (start first none) :=
  ⟨limit, ⟨[], first, []⟩, ⟨[], first, []⟩, rfl, rfl, ⟨List.suffix_refl _, rfl, rfl⟩⟩

/-- Recording the same entry in both keeps the one the end of the other, as it does
for the stacks. -/
theorem EndOf.record {short long : Timeline α} (ends : short.EndOf long) (entry : α) :
    (short.record entry).EndOf (long.record entry) := by
  obtain ⟨limit, recent, whole, rfl, rfl, ends⟩ := ends
  exact ⟨limit, _, _, Stacks.record_timeline limit recent entry,
    Stacks.record_timeline none whole entry, ends.record limit entry⟩

/-- Going back, if it is possible in both or in neither. Where it is possible in the
second one only, the first one has lost the entry to its limit. -/
theorem EndOf.undo? {short long : Timeline α} (ends : short.EndOf long)
    (bottom : short.undo? = none → long.undo? = none) : MovedAlike short.undo? long.undo? := by
  obtain ⟨limit, recent, whole, rfl, rfl, ends⟩ := ends
  rw [Stacks.undo?_timeline, Stacks.undo?_timeline, Option.map_eq_none_iff,
    Option.map_eq_none_iff] at bottom
  rw [Stacks.undo?_timeline, Stacks.undo?_timeline]
  exact movedAlike_map limit (ends.undo? bottom)

/-- Going forward needs no such condition, since a limit never takes anything of the
future. -/
theorem EndOf.redo? {short long : Timeline α} (ends : short.EndOf long) :
    MovedAlike short.redo? long.redo? := by
  obtain ⟨limit, recent, whole, rfl, rfl, ends⟩ := ends
  rw [Stacks.redo?_timeline, Stacks.redo?_timeline]
  exact movedAlike_map limit ends.redo?

/-- The entries are the newest ones of the other timeline, in the same order, so an
entry that is there in both stands as far from the end. -/
theorem EndOf.suffix {short long : Timeline α} (ends : short.EndOf long) :
    short.entries <:+ long.entries := by
  obtain ⟨limit, recent, whole, rfl, rfl, ⟨older, joined⟩, current, future⟩ := ends
  refine ⟨older, ?_⟩
  simp only [Stacks.timeline, Stacks.entries, ← joined, current, future, List.append_assoc]

/-- The cursors are as far from the end, since what comes behind them is the future,
which is the same. -/
theorem EndOf.fromEnd {short long : Timeline α} (ends : short.EndOf long) :
    short.entries.length - short.cursor = long.entries.length - long.cursor := by
  obtain ⟨limit, recent, whole, rfl, rfl, ends⟩ := ends
  simp [Stacks.timeline, Stacks.entries, ends.future]

/-- Going forward is possible in both or in neither, as the futures are the same.
What a button for it shows does not depend on the limit. -/
theorem EndOf.canRedo {short long : Timeline α} (ends : short.EndOf long) :
    short.canRedo = long.canRedo := by
  obtain ⟨limit, recent, whole, rfl, rfl, ends⟩ := ends
  simp [Timeline.canRedo, Stacks.timeline, Stacks.entries, ends.future]

end Timeline

namespace Workspace

/-- What is shown is the same, so is how code is generated, and the first timeline
is the end of the second one. The settings differ in the limit only, and the limit
is seen in the timeline. -/
structure EndOf (short long : Workspace) : Prop where
  view : short.view = long.view
  generator : short.settings.generator = long.settings.generator
  timeline : short.timeline.EndOf long.timeline

variable {short long : Workspace}

/-- New workspaces with the same generator settings show the same empty diagram, and
have one entry each. -/
theorem endOf_start (generator : GeneratorSettings) (limit : Option UInt64) :
    (start { generator, entryLimit := limit }).EndOf (start { generator }) :=
  ⟨rfl, rfl, Timeline.endOf_start ({} : Entry) (limit.map UInt64.toNat)⟩

/-- Recording what is live. The entry is made from what is shown, so it is the same
in both. -/
theorem EndOf.record (ends : short.EndOf long) : short.record.EndOf long.record := by
  obtain ⟨diagram, code, overridden⟩ := View.mk.inj ends.view
  have entry : short.entry = long.entry := by
    rw [Workspace.entry, Workspace.entry, diagram, code, overridden]
  refine ⟨ends.view, ends.generator, ?_⟩
  rw [record_timeline, record_timeline, entry]
  exact ends.timeline.record long.entry

/-- The same change is answered alike. Whether it is refused, does nothing or is
recorded is decided by the live diagram and code, and these are the same. -/
theorem EndOf.apply (ends : short.EndOf long) (change : Change) :
    (short.apply change).1 = (long.apply change).1 ∧
      (short.apply change).2.EndOf (long.apply change).2 := by
  have diagram : short.diagram = long.diagram := congrArg View.diagram ends.view
  cases change with
  | overrideCode text =>
    have shown : { short with code := text, overridden := true }.view =
        { long with code := text, overridden := true }.view := by
      rw [Workspace.view, Workspace.view, diagram]
    exact ⟨rfl, EndOf.record ⟨shown, ends.generator, ends.timeline⟩⟩
  | edit edit =>
    rw [Workspace.apply, Workspace.apply, diagram]
    rcases long.diagram.edit edit with refusal | _ | edited
    · exact ⟨rfl, ends⟩
    · exact ⟨rfl, ends⟩
    · have shown : { short with diagram := edited }.regenerate.view =
          { long with diagram := edited }.regenerate.view := by
        simp only [Workspace.view, regenerate, ends.generator]
      exact ⟨rfl, EndOf.record ⟨shown, ends.generator, ends.timeline⟩⟩

/-- Bring back the entry that a move led to, if there was one. Going back and going
forward differ in the move only, so what they share is said once. -/
def follow (workspace : Workspace) (moved : Option (Entry × Timeline Entry)) : Bool × Workspace :=
  moved.elim (false, workspace) fun (entry, timeline) =>
    (true, { workspace with timeline }.restore entry)

/-- Going back follows the move of the timeline, and answers whether there was one.
-/
theorem undo_eq_follow (workspace : Workspace) :
    workspace.undo = workspace.follow workspace.timeline.undo? := by
  rw [undo, follow]
  cases workspace.timeline.undo? <;> rfl

/-- Going forward follows the move of the timeline, and answers whether there was
one. -/
theorem redo_eq_follow (workspace : Workspace) :
    workspace.redo = workspace.follow workspace.timeline.redo? := by
  rw [redo, follow]
  cases workspace.timeline.redo? <;> rfl

/-- Moves to the same entry show the same, since the code of an entry without a text
of the user is generated again with the same settings. -/
theorem EndOf.follow (ends : short.EndOf long) {first second : Option (Entry × Timeline Entry)}
    (alike : Timeline.MovedAlike first second) :
    (short.follow first).1 = (long.follow second).1 ∧
      (short.follow first).2.EndOf (long.follow second).2 := by
  cases alike with
  | none => exact ⟨rfl, ends⟩
  | @some first second moved =>
    obtain ⟨entry, timeline⟩ := first
    obtain ⟨_, _⟩ := second
    obtain ⟨rfl, endsTimeline⟩ := moved
    refine ⟨rfl, ?_, ?_, ?_⟩
    · simp only [Workspace.follow, Option.elim_some, restore_view, ends.generator]
    · simp only [Workspace.follow, Option.elim_some, restore_settings, ends.generator]
    · simpa only [Workspace.follow, Option.elim_some, restore_timeline] using endsTimeline

/-- Going back is answered alike, unless only the second workspace does it. This is
the one request at which a limit can be noticed. -/
theorem EndOf.undo (ends : short.EndOf long)
    (notMissed : long.undo.1 = true → short.undo.1 = true) :
    short.undo.1 = long.undo.1 ∧ short.undo.2.EndOf long.undo.2 := by
  have bottom (stuck : short.timeline.undo? = none) : long.timeline.undo? = none := by
    rw [undo_eq_follow, undo_eq_follow, stuck] at notMissed
    cases moved : long.timeline.undo? with
    | none => rfl
    | some found =>
      rw [moved] at notMissed
      cases notMissed rfl
  rw [undo_eq_follow, undo_eq_follow]
  exact ends.follow (ends.timeline.undo? bottom)

/-- Going forward is answered alike, without any condition on the limit. -/
theorem EndOf.redo (ends : short.EndOf long) :
    short.redo.1 = long.redo.1 ∧ short.redo.2.EndOf long.redo.2 := by
  rw [redo_eq_follow, redo_eq_follow]
  exact ends.follow ends.timeline.redo?

end Workspace

/-- What a session answers to an operation. It is kept as a whole, so that two
sessions can be compared by everything they ever said. -/
inductive Answer where
  /-- Whether a change was recorded, or why it was refused. -/
  | changed (outcome : Except Refusal Bool)
  /-- The id of a new resource, or why it was refused. -/
  | added (outcome : Except Refusal String)
  /-- The id of a new connection, if there is one. -/
  | connected (id : Option String)
  /-- Whether a move was possible. -/
  | moved (possible : Bool)

namespace Session

/-- Do what is asked: the answer, and the session after it. Each operation is the
one of the session, with its answer put under a name of its own. -/
def respond (session : Session) : Operation → Answer × Session
  | .change change => (session.apply change).map .changed id
  | .addResource kind position => (session.addResource kind position).map .added id
  | .addTagged tag position => (session.addTagged tag position).map .added id
  | .connect source target => (session.connect source target).map .connected id
  | .undo => session.undo.map .moved id
  | .redo => session.redo.map .moved id

/-- The session after an operation is the same, whether its answer is looked at or
not, so what is known of runs without answers holds of these. -/
theorem respond_snd (session : Session) (operation : Operation) :
    (session.respond operation).2 = session.operate operation := by
  cases operation <;> rfl

/-- The registry is the same, and the first workspace is the end of the second one.
The registry has no limit, and learns the same ids as long as the answers are the
same. -/
structure EndOf (short long : Session) : Prop where
  registry : short.registry = long.registry
  workspace : short.workspace.EndOf long.workspace

variable {short long : Session}

/-- The same change is answered alike, and the registry learns the ids that the
change brings, whether it was recorded or not. -/
theorem EndOf.apply (ends : short.EndOf long) (change : Change) :
    (short.apply change).1 = (long.apply change).1 ∧
      (short.apply change).2.EndOf (long.apply change).2 := by
  obtain ⟨answered, workspace⟩ := ends.workspace.apply change
  exact ⟨answered, congrArg (·.learnAll change.ids) ends.registry, workspace⟩

/-- The same preset resource is added under the same id. The id comes from the
registry alone, and the registries are equal. -/
theorem EndOf.addResource (ends : short.EndOf long) (kind : Kind) (position : Position) :
    (short.addResource kind position).1 = (long.addResource kind position).1 ∧
      (short.addResource kind position).2.EndOf (long.addResource kind position).2 := by
  obtain ⟨registry, short⟩ := short
  obtain ⟨_, long⟩ := long
  obtain ⟨rfl, workspace⟩ := ends
  let made := Preset.place registry kind position
  have ready : EndOf ⟨made.2, short⟩ ⟨made.2, long⟩ := ⟨rfl, workspace⟩
  obtain ⟨answered, after⟩ := ready.apply (.edit (.addNode made.1))
  exact ⟨congrArg (Except.map fun _ => made.1.id) answered, after⟩

/-- What is answered about a connection depends on what its workspace answered: the
id of the connection if it was made, and no id if it was there before. -/
theorem connected_congr {edge : Connection} {first second : Except Refusal Bool × Session}
    (alike : first.1 = second.1) : (connected edge first).1 = (connected edge second).1 := by
  rw [connected, connected, alike]
  rcases second.1 with refusal | _ | _ <;> rfl

/-- The same two ids are connected under the same id. A number of the registry is
used up in both, also where the connection was there before. -/
theorem EndOf.connect (ends : short.EndOf long) (source target : String) :
    (short.connect source target).1 = (long.connect source target).1 ∧
      (short.connect source target).2.EndOf (long.connect source target).2 := by
  obtain ⟨registry, short⟩ := short
  obtain ⟨_, long⟩ := long
  obtain ⟨rfl, workspace⟩ := ends
  let edge := nextEdge ⟨registry, short⟩ source target
  obtain ⟨answered, after⟩ := workspace.apply (.edit (.addEdge edge))
  rw [connect_eq, connect_eq, connected_snd, connected_snd]
  exact ⟨connected_congr answered, rfl, after⟩

/-- Every operation is answered alike, unless it is a move back that only the second
session makes. This is the step; the run below is an induction on it. -/
theorem EndOf.respond (ends : short.EndOf long) (operation : Operation)
    (notMissed : operation = .undo → long.undo.1 = true → short.undo.1 = true) :
    (short.respond operation).1 = (long.respond operation).1 ∧
      (short.respond operation).2.EndOf (long.respond operation).2 := by
  cases operation with
  | change change =>
    obtain ⟨answered, after⟩ := ends.apply change
    exact ⟨congrArg Answer.changed answered, after⟩
  | addResource kind position =>
    obtain ⟨answered, after⟩ := ends.addResource kind position
    exact ⟨congrArg Answer.added answered, after⟩
  | addTagged tag position =>
    rw [Session.respond, Session.respond, addTagged, addTagged]
    cases Kind.ofTag? tag with
    | none => exact ⟨rfl, ends⟩
    | some kind =>
      obtain ⟨answered, after⟩ := ends.addResource kind position
      exact ⟨congrArg Answer.added answered, after⟩
  | connect source target =>
    obtain ⟨answered, after⟩ := ends.connect source target
    exact ⟨congrArg Answer.connected answered, after⟩
  | undo =>
    obtain ⟨answered, after⟩ := ends.workspace.undo (notMissed rfl)
    exact ⟨congrArg Answer.moved answered, ends.registry, after⟩
  | redo =>
    obtain ⟨answered, after⟩ := ends.workspace.redo
    exact ⟨congrArg Answer.moved answered, ends.registry, after⟩

/-- Along these operations the first session makes every move back that the second
one makes. A move back that neither makes is allowed; both sessions stay as they are
then. -/
def KeepsUp (short long : Session) : List Operation → Prop
  | [] => True
  | operation :: rest =>
    (operation = .undo → long.undo.1 = true → short.undo.1 = true) ∧
      (short.operate operation).KeepsUp (long.operate operation) rest

/-- As long as the first session keeps up, all operations are answered alike, and
the sessions after them are as close as before. By induction on the operations. -/
theorem EndOf.answerAll {operations : List Operation} (ends : short.EndOf long)
    (keepsUp : short.KeepsUp long operations) :
    (CloudDiagram.answerAll Session.respond short operations).1 =
        (CloudDiagram.answerAll Session.respond long operations).1 ∧
      (CloudDiagram.answerAll Session.respond short operations).2.EndOf
        (CloudDiagram.answerAll Session.respond long operations).2 := by
  induction operations generalizing short long with
  | nil => exact ⟨rfl, ends⟩
  | cons operation rest inductionHypothesis =>
    obtain ⟨notMissed, later⟩ := keepsUp
    obtain ⟨answered, after⟩ := ends.respond operation notMissed
    rw [← respond_snd, ← respond_snd] at later
    obtain ⟨allAnswered, last⟩ := inductionHypothesis after later
    exact ⟨congrArg₂ List.cons answered allAnswered, last⟩

/-- Ask the same of two new sessions with the same registry and generator settings,
one with a limit on its entries and one without. As long as the limited one makes
every move back that the other one makes, both have given the same answers, new ids
included, and their registries are the same. Both show the same diagram and the same
code, generated or the user's own, and going forward is possible in both or in
neither. The limited timeline is the end of the other one, with the cursor as far
from the end.

Proof: the two timelines are written as stacks, and each operation keeps the limited
stacks the end of the others. A limit takes from the bottom of the past, which is
noticed only by a move back that reaches it. -/
theorem limit_costs_undo_only {generator : GeneratorSettings} {limit : Option UInt64}
    {registry : Registry} {operations : List Operation}
    (keepsUp : (start { generator, entryLimit := limit } registry).KeepsUp
      (start { generator } registry) operations) :
    let limited := CloudDiagram.answerAll respond
      (start { generator, entryLimit := limit } registry) operations
    let free := CloudDiagram.answerAll respond (start { generator } registry) operations
    let short := limited.2.workspace
    let long := free.2.workspace
    limited.1 = free.1 ∧ limited.2.registry = free.2.registry ∧ short.diagram = long.diagram ∧
      short.code = long.code ∧ short.overridden = long.overridden ∧
      short.timeline.canRedo = long.timeline.canRedo ∧
      short.timeline.entries <:+ long.timeline.entries ∧
      short.timeline.entries.length - short.timeline.cursor =
        long.timeline.entries.length - long.timeline.cursor := by
  have begin : (start { generator, entryLimit := limit } registry).EndOf
      (start { generator } registry) := ⟨rfl, Workspace.endOf_start generator limit⟩
  obtain ⟨answered, registries, workspace⟩ := begin.answerAll keepsUp
  obtain ⟨diagram, code, overridden⟩ := View.mk.inj workspace.view
  exact ⟨answered, registries, diagram, code, overridden, workspace.timeline.canRedo,
    workspace.timeline.suffix, workspace.timeline.fromEnd⟩

/-- Under a limit of two entries, one move back and forward again over a text of the
user. The limited timeline has lost the two oldest of four entries by then, and no
move was missed. -/
theorem limit_of_two_keeps_up :
    let operations : List Operation := [.addResource .network .origin, .connect "a" "vpc-1",
      .change (.overrideCode "draft"), .undo, .redo]
    let limited := start { entryLimit := some 2 } {}
    let free := start {} {}
    limited.KeepsUp free operations ∧
      (limited.run operations).workspace.timeline.entries.length = 2 ∧
      (free.run operations).workspace.timeline.entries.length = 4 ∧
      (CloudDiagram.answerAll respond limited operations).1 =
        (CloudDiagram.answerAll respond free operations).1 := by
  intro operations limited free
  have keepsUp : limited.KeepsUp free operations := by
    refine ⟨nofun, nofun, nofun, fun _ _ => ?_, nofun, trivial⟩
    decide +kernel
  obtain ⟨answers, -⟩ := limit_costs_undo_only keepsUp
  exact ⟨keepsUp, by decide +kernel, by decide +kernel, answers⟩

end Session

end CloudDiagram
