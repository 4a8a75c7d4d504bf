import CloudDiagram.Proofs.Session.Answers
import CloudDiagram.Proofs.Session.OwnOutput

/-!
# Code without an editor

The code of a diagram can be asked for without an editor, by two texts and one call. An
editor with default settings for the code comes to the same: it accepts both texts exactly
if the one call does, it shows the same code then, and what was done in it before does not
matter, since the two texts replace the whole diagram and the code is generated anew.

The answer of the one call is a text itself. It is read as an object that holds the code or
the error, whatever characters are in it.
-/

namespace CloudDiagram

open Json

namespace Editor

/-- The object that answers with a code or an error. It tells the two apart by the
member `ok`, and has the code or the message under a key of its own, never both. -/
def answerValue : Except String String → Value
  | .ok code => .object [("code", .string code), ("ok", .bool true)]
  | .error message => .object [("error", .string message), ("ok", .bool false)]

/-- The answer is the text of its object. The text is put together from quoted
parts, and quoting is the same as in the texts of values. -/
theorem generate_eq (nodesText edgesText : String) :
    generate nodesText edgesText = (answerValue (codeOfTexts nodesText edgesText)).text := by
  rw [generate]
  cases codeOfTexts nodesText edgesText <;> rfl

/-- An object of a text and a truth value, with its keys in order, may be read from
a text. It is one level deep and has no numbers, so nothing else has to be asked of
it. -/
theorem within_textAndFlag {first second : String} (ordered : first < second) (text : String)
    (flag : Bool) :
    (Value.object [(first, .string text), (second, .bool flag)]).Within nestingLimit := by
  have parts : Value.MembersWithin 0 [(first, .string text), (second, .bool flag)] := by
    refine ⟨List.pairwise_pair.mpr ordered, ?_⟩
    simp only [List.forall_mem_cons]
    exact ⟨.of_scalar rfl 0, .of_scalar rfl 0, nofun⟩
  exact (Value.Within.object parts).mono (by decide)

/-- The answer is read as its object. Whatever characters the code or the message
has, they are escaped in the answer and read back as they were. -/
theorem outcome_ofText_generate (nodesText edgesText : String) :
    (Value.ofText (generate nodesText edgesText)).outcome =
      .ok (answerValue (codeOfTexts nodesText edgesText)) := by
  have within : (answerValue (codeOfTexts nodesText edgesText)).Within nestingLimit := by
    cases codeOfTexts nodesText edgesText with
    | ok code => exact within_textAndFlag (by decide) code true
    | error message => exact within_textAndFlag (by decide) message false
  -- no double is in it that could come out as another one
  have same : (answerValue (codeOfTexts nodesText edgesText)).reread =
      answerValue (codeOfTexts nodesText edgesText) := by
    cases codeOfTexts nodesText edgesText <;> rfl
  have read := Value.value?_ofText_text within
  rw [same] at read
  rw [generate_eq]
  exact Reading.value?_eq_some_iff.mp read

/-- A text that cannot be read as connections is not accepted, whatever the session
is. Nothing is looked at but the text. -/
theorem updateEdges_of_refused (session : Session) {text : String}
    (refused : (Connection.listOfText text).value? = none) :
    (updateEdges session text).1 = false := by
  rw [updateEdges, applyReading, refused]

/-- A recorded edit leaves the code that is generated from its diagram, with the
settings that the editor was started with. A text of the user that was shown before
is gone. -/
theorem Reachable.code_eq {settings : String} {session : Session}
    (reachable : Reachable settings session) (asked : Call) (edits : asked.edits = true)
    (done : ¬(reply session asked).Refused) :
    (call session asked).workspace.code =
      Terraform.generate (WorkspaceSettings.ofTextOrDefault settings).generator
        (call session asked).workspace.diagram.nodes
        (call session asked).workspace.diagram.edges := by
  rcases settles_call session edits with ⟨refused, -⟩ | ⟨-, edit, recorded⟩
  · exact absurd refused done
  · rw [← reachable.settings_eq]
    exact Workspace.code_of_recorded recorded

/-- Both texts replace the diagram, in whichever order they come, and the code is
that of the diagram that they describe. Each of them leaves the list of the other
one as it is, so the second edit completes what the first one began. -/
theorem Reachable.code_of_texts {settings : String} {session : Session}
    (reachable : Reachable settings session) {nodesText edgesText : String} {nodes : List Node}
    {edges : List Connection} (nodesRead : (Node.listOfText nodesText).value? = some nodes)
    (edgesRead : (Connection.listOfText edgesText).value? = some edges) :
    let generator := (WorkspaceSettings.ofTextOrDefault settings).generator
    (updateEdges (updateNodes session nodesText).2 edgesText).2.workspace.code =
        Terraform.generate generator nodes edges ∧
      (updateNodes (updateEdges session edgesText).2 nodesText).2.workspace.code =
        Terraform.generate generator nodes edges := by
  intro generator
  have accepted {answer : Bool} (yes : answer = true) : ¬(Reply.flag answer).Refused := by
    rw [yes]
    decide
  constructor
  · have before : Reachable settings (updateNodes session nodesText).2 :=
      reachable.called (.updateNodes nodesText)
    obtain ⟨-, replaced⟩ := updateNodes_of_read session nodesRead
    obtain ⟨done, diagram⟩ := updateEdges_of_read (updateNodes session nodesText).2 edgesRead
    rw [replaced] at diagram
    have code := before.code_eq (.updateEdges edgesText) rfl (accepted done)
    rwa [call, diagram] at code
  · have before : Reachable settings (updateEdges session edgesText).2 :=
      reachable.called (.updateEdges edgesText)
    obtain ⟨-, replaced⟩ := updateEdges_of_read session edgesRead
    obtain ⟨done, diagram⟩ := updateNodes_of_read (updateEdges session edgesText).2 nodesRead
    rw [replaced] at diagram
    have code := before.code_eq (.updateNodes nodesText) rfl (accepted done)
    rwa [call, diagram] at code

/-- Take any state of an editor with default settings for the code. The answer to
two texts is read as an object with a code or an error. It has a code exactly if the
editor accepts both texts, in either order, and that is the code that the editor
shows then. Otherwise the error names the first text that cannot be read, and says
what is wrong with it.

Proof: by cases on what the two texts are read as. An editor accepts a text exactly
if it can be read, whatever the session is, so the order of the two does not matter
for the answers. -/
theorem generate_agrees_with_editor {settings : String} {session : Session}
    (reachable : Reachable settings session)
    (plain : (WorkspaceSettings.ofTextOrDefault settings).generator = {})
    (nodesText edgesText : String) :
    let afterNodes := updateNodes session nodesText
    let nodesFirst := updateEdges afterNodes.2 edgesText
    let afterEdges := updateEdges session edgesText
    let edgesFirst := updateNodes afterEdges.2 nodesText
    ∃ answer, (Value.ofText (generate nodesText edgesText)).outcome = .ok (answerValue answer) ∧
      ((∃ code, answer = .ok code) ↔ afterNodes.1 = true ∧ nodesFirst.1 = true) ∧
      ((∃ code, answer = .ok code) ↔ afterEdges.1 = true ∧ edgesFirst.1 = true) ∧
      (∀ code, answer = .ok code →
        nodesFirst.2.workspace.code = code ∧ edgesFirst.2.workspace.code = code) ∧
      (∀ message, answer = .error message →
        (afterNodes.1 = false → ∃ fault, (Node.listOfText nodesText).outcome = .error fault ∧
          message = "nodes: " ++ fault.message nodesText) ∧
        (afterNodes.1 = true → ∃ fault, (Connection.listOfText edgesText).outcome = .error fault ∧
          message = "edges: " ++ fault.message edgesText)) := by
  intro afterNodes nodesFirst afterEdges edgesFirst
  refine ⟨codeOfTexts nodesText edgesText, outcome_ofText_generate nodesText edgesText, ?_⟩
  rw [codeOfTexts]
  cases readNodes : (Node.listOfText nodesText).outcome with
  | error fault =>
    have none : (Node.listOfText nodesText).value? = none := congrArg Except.toOption readNodes
    have notFirst : afterNodes.1 = false := (updateNodes_of_refused session none).1
    have notLast : edgesFirst.1 = false := (updateNodes_of_refused afterEdges.2 none).1
    simp [notFirst, notLast]
  | ok nodes =>
    have someNodes := congrArg Except.toOption readNodes
    have nodesDone : afterNodes.1 = true := (updateNodes_of_read session someNodes).1
    have nodesDoneLast : edgesFirst.1 = true := (updateNodes_of_read afterEdges.2 someNodes).1
    cases readEdges : (Connection.listOfText edgesText).outcome with
    | error fault =>
      have none : (Connection.listOfText edgesText).value? = none :=
        congrArg Except.toOption readEdges
      have notLast : nodesFirst.1 = false := updateEdges_of_refused afterNodes.2 none
      have notFirst : afterEdges.1 = false := updateEdges_of_refused session none
      simp [nodesDone, notFirst, notLast]
    | ok edges =>
      have someEdges := congrArg Except.toOption readEdges
      have edgesDone : afterEdges.1 = true := (updateEdges_of_read session someEdges).1
      have edgesDoneLast : nodesFirst.1 = true := (updateEdges_of_read afterNodes.2 someEdges).1
      obtain ⟨codeNodesFirst, codeEdgesFirst⟩ := reachable.code_of_texts someNodes someEdges
      rw [plain] at codeNodesFirst codeEdgesFirst
      refine ⟨?_, ?_, ?_, nofun⟩
      · simp [nodesDone, edgesDoneLast]
      · simp [edgesDone, nodesDoneLast]
      · rintro code ⟨⟩
        exact ⟨codeNodesFirst, codeEdgesFirst⟩

/-- In an editor that keeps one entry and shows a text of the user, a bucket whose
name has a quote and a line break comes to the code that is answered without it. A
list of connections that breaks off is named as the one that cannot be read. -/
theorem generate_agrees_after_override :
    let settings := "\x7b\"history_limit\":1\x7d"
    let session := run (start settings {}) [.addResource "vpc" .origin, .overrideCode "draft"]
    let nodes := "[\x7b\"id\":\"i\",\"data\":" ++
      "\x7b\"type\":\"s3\",\"data\":\x7b\"bucket_name\":\"a\\\"b\\n\"\x7d\x7d\x7d]"
    Reachable settings session ∧ (WorkspaceSettings.ofTextOrDefault settings).generator = {} ∧
      (∃ code, (Value.ofText (generate nodes "[]")).outcome = .ok (answerValue (.ok code)) ∧
        (updateEdges (updateNodes session nodes).2 "[]").2.workspace.code = code) ∧
      ∃ fault : Fault, (Value.ofText (generate nodes "[")).outcome =
        .ok (answerValue (.error ("edges: " ++ fault.message "["))) := by
  intro settings session nodes
  have reachable : Reachable settings session := (Reachable.started {}).run _
  have plain : (WorkspaceSettings.ofTextOrDefault settings).generator = {} := by decide +kernel
  have nodesDone : (updateNodes session nodes).1 = true := by decide +kernel
  have edgesDone : (updateEdges (updateNodes session nodes).2 "[]").1 = true := by decide +kernel
  have broken : ¬(updateEdges (updateNodes session nodes).2 "[").1 = true := by decide +kernel
  refine ⟨reachable, plain, ?_, ?_⟩
  · obtain ⟨answer, decoded, coded, -, shown, -⟩ :=
      generate_agrees_with_editor reachable plain nodes "[]"
    obtain ⟨code, rfl⟩ := coded.mpr ⟨nodesDone, edgesDone⟩
    exact ⟨code, decoded, (shown code rfl).1⟩
  · obtain ⟨answer, decoded, coded, -, -, named⟩ :=
      generate_agrees_with_editor reachable plain nodes "["
    cases answer with
    | ok code => exact absurd (coded.mp ⟨code, rfl⟩).2 broken
    | error message =>
      obtain ⟨fault, -, rfl⟩ := (named message rfl).2 nodesDone
      exact ⟨fault, decoded⟩

end Editor

end CloudDiagram
