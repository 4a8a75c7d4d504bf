import CloudDiagram.Diagram.Edit
import CloudDiagram.Diagnostic.Rules
import CloudDiagram.Timeline

/-!
# The workspace

The workspace holds the live diagram with its code and the timeline of both. A change
that is accepted is recorded as one entry. Changing the diagram generates the code
anew; the user may instead put a text of their own in its place, which is kept with
the entry and never read back into the diagram. Undo and redo bring an entry back
and record nothing. A change that is refused or has nothing to do leaves no trace.
-/

namespace CloudDiagram

/-- One state to come back to: a diagram, and the user's text if it replaced the
code. Generated code is not kept, since it can be generated from the diagram again.
-/
structure Entry where
  diagram : Diagram := {}
  override : Option String := none
deriving DecidableEq

/-- What may be asked of a workspace. Undo and redo are not among these, since they
record nothing. -/
inductive Change where
  /-- Edit the diagram. -/
  | edit (edit : Diagram.Edit)
  /-- Put a text in place of the code. -/
  | overrideCode (text : String)
deriving DecidableEq

namespace Change

/-- A short name of a change, for a list of what was done. It does not name the node
or the text, so changes of one sort have the same name. -/
def label : Change → String
  | edit (.addNode _) => "add node"
  | edit (.removeNode _) => "remove node"
  | edit (.replaceNodes _) => "update nodes"
  | edit (.replaceEdges _) => "update edges"
  | edit (.setPayload _ _) => "edit attributes"
  | edit (.moveNode _ _) => "move node"
  | edit (.addEdge _) => "connect"
  | overrideCode _ => "edit code"

end Change

/-- The live diagram and code, and the timeline. That the entry under the cursor is
what is live is not part of the structure; it is shown of all states that a new
workspace comes to. -/
structure Workspace where
  diagram : Diagram
  code : String
  /-- Whether the code is a text of the user. -/
  overridden : Bool
  timeline : Timeline Entry
  settings : WorkspaceSettings
deriving DecidableEq

namespace Workspace

/-- The empty workspace. Its timeline has one entry, the empty diagram, so there is
nothing to undo. -/
def start (settings : WorkspaceSettings) : Workspace where
  diagram := {}
  code := ""
  overridden := false
  timeline := .start {} (settings.entryLimit.map UInt64.toNat)
  settings := settings

/-- Generate the code of the live diagram. A text of the user that was shown in its
place is gone from the live state; an entry that has it still has it. -/
def regenerate (workspace : Workspace) : Workspace :=
  { workspace with
    code :=
      Terraform.generate workspace.settings.generator workspace.diagram.nodes
        workspace.diagram.edges
    overridden := false }

/-- The live state as an entry. Code that was generated is left out, and comes back
with the diagram. -/
def entry (workspace : Workspace) : Entry where
  diagram := workspace.diagram
  override := if workspace.overridden then some workspace.code else none

/-- Record the live state as the entry after the one under the cursor. What could be
redone is forgotten. -/
def record (workspace : Workspace) : Workspace :=
  { workspace with timeline := workspace.timeline.record workspace.entry }

/-- Bring an entry back. Its text is shown if it has one, and else the code is
generated from its diagram. The timeline stays as it is, since its cursor has been
moved already. -/
def restore (workspace : Workspace) (entry : Entry) : Workspace :=
  match entry.override with
  | some text => { workspace with diagram := entry.diagram, code := text, overridden := true }
  | none => { workspace with diagram := entry.diagram }.regenerate

/-- Make a change: whether something was recorded, or why the change was refused,
and the workspace after it. A text of the user is always recorded, also if it is the
one that is shown. -/
def apply (workspace : Workspace) : Change → Except Refusal Bool × Workspace
  | .overrideCode text => (.ok true, { workspace with code := text, overridden := true }.record)
  | .edit edit =>
    match workspace.diagram.edit edit with
    | .error refusal => (.error refusal, workspace)
    | .ok none => (.ok false, workspace)
    | .ok (some diagram) => (.ok true, { workspace with diagram }.regenerate.record)

/-- Go back one entry, if there is one, and answer whether there was. Nothing is
recorded, so one can go forward again. -/
def undo (workspace : Workspace) : Bool × Workspace :=
  match workspace.timeline.undo? with
  | some (entry, timeline) => (true, { workspace with timeline }.restore entry)
  | none => (false, workspace)

/-- Go forward one entry, if there is one, and answer whether there was. -/
def redo (workspace : Workspace) : Bool × Workspace :=
  match workspace.timeline.redo? with
  | some (entry, timeline) => (true, { workspace with timeline }.restore entry)
  | none => (false, workspace)

/-- The findings about the live diagram. They do not depend on a text of the user,
and are the same with one as without. -/
def diagnostics (workspace : Workspace) : List Diagnostic :=
  diagnose workspace.settings.generator workspace.diagram.nodes workspace.diagram.edges

end Workspace

end CloudDiagram
