import CloudDiagram.Proofs.Diagnostic.Report

/-!
# Where a document ends

A policy is copied into the code of its bucket line by line, without the newlines at its
end, between the line that opens the document and the mark. Whoever reads the code takes
the first line that is the mark for the end of the document. That is the one which was
written behind the policy exactly if no line of the policy is the mark.

If one is, the document that is read ends there. What stands behind it in the policy is
read as further things that the block says, before the mark that was meant to end it.
Other texts of a user cannot do this, since they are written as literals.
-/

namespace CloudDiagram.Terraform

/-- The lines before the first one that is a given line, and those behind it. The
line itself is in neither part. -/
def cutAt (mark : String) (lines : List String) : List String × List String :=
  (lines.takeWhile (· ≠ mark), (lines.dropWhile (· ≠ mark)).tail)

/-- The lines of the first document in some lines, and the lines behind its end.
This is how a reader takes the code: it cannot know which mark was meant to end the
document. -/
def firstDocument (lines : List String) : List String × List String :=
  cutAt documentMark (cutAt documentStart lines).2

/-- Lines are cut where the mark stands for the first time. What stands behind it
may hold the mark again. -/
theorem cutAt_append {mark : String} {front : List String} (absent : mark ∉ front)
    (rest : List String) : cutAt mark (front ++ mark :: rest) = (front, rest) := by
  have others : ∀ line ∈ front, decide (line ≠ mark) = true := by
    intro line member
    exact decide_eq_true fun same => absent (same ▸ member)
  rw [cutAt, List.takeWhile_append_of_pos others, List.dropWhile_append_of_pos others]
  simp

/-- Lines are cut at a given mark exactly if it is the first one. If the mark stands
earlier the cut is made there, and what is in front of it is no longer the whole
content. -/
theorem cutAt_eq_iff {mark : String} {content rest : List String} :
    cutAt mark (content ++ mark :: rest) = (content, rest) ↔ mark ∉ content := by
  constructor
  · intro cut member
    have front : (content ++ mark :: rest).takeWhile (· ≠ mark) = content :=
      congrArg Prod.fst cut
    rw [← front] at member
    have other := List.mem_takeWhile_imp member
    exact of_decide_eq_true other rfl
  · intro absent
    exact cutAt_append absent rest

/-- What is said about a bucket before its policy. The policy itself and the tags
are the only items that follow. -/
def storageFront (attributes : Storage) : List Item :=
  [.argument "bucket" (.text attributes.bucketName)]
  ++ (attributes.forceDestroy.map fun force => .argument "force_destroy" (.flag force)).toList
  ++ optionalText "acl" attributes.accessControl
  ++ [.nested "versioning" [("enabled", .flag attributes.versioned)]]

/-- A policy stands between what is said before it and the tags, whatever else is
set for the bucket. -/
theorem storageItems_of_policy (settings : GeneratorSettings) (attributes : Storage)
    (policy : String) :
    storageItems settings { attributes with policy := some policy } =
      storageFront attributes ++
        [.document "policy" policy, tagsItem settings attributes.bucketName attributes.tags] := by
  simp [storageItems, storageFront]

/-- Nothing that is said about a bucket before its policy is a document. All names
are identifiers and all values are printed on one line, so the items are well formed
too. -/
theorem storageFront_plain (attributes : Storage) :
    ∀ item ∈ storageFront attributes, item.WellFormed ∧ item.form ≠ .document := by
  intro item member
  simp only [storageFront, optionalText, List.mem_append, List.mem_singleton,
    Option.mem_toList, Option.map_eq_some_iff] at member
  rcases member with ((rfl | ⟨force, -, rfl⟩) | ⟨acl, -, rfl⟩) | rfl
  · exact ⟨⟨by decide, trivial⟩, nofun⟩
  · exact ⟨⟨by decide, trivial⟩, nofun⟩
  · exact ⟨⟨by decide, trivial⟩, nofun⟩
  · have enabled : isIdentifier "enabled" = true := by decide
    exact ⟨⟨by decide, List.forall_mem_singleton.mpr ⟨enabled, trivial⟩⟩, nofun⟩

/-- The lines of what is said before a policy are read back. Each of these items is
well formed, so none of its lines is broken by a text of the user. -/
theorem flatMap_lines_storageFront (attributes : Storage) :
    ((storageFront attributes).flatMap Item.lines).flatMap textLines =
      (storageFront attributes).flatMap Item.written := by
  rw [List.flatMap_assoc]
  refine List.flatMap_congr ?_
  intro item member
  exact Item.flatMap_lines (storageFront_plain attributes item member).1

/-- No line before a policy opens a document. The lines are inert, because no item
among them is a document. -/
theorem documentStart_not_mem_storageFront (attributes : Storage) :
    documentStart ∉ (storageFront attributes).flatMap Item.written := by
  intro member
  obtain ⟨item, among, written⟩ := List.mem_flatMap.mp member
  obtain ⟨wellFormed, plain⟩ := storageFront_plain attributes item among
  exact (written_inert wellFormed plain documentStart written).1 rfl

/-- The lines of a policy are read between the line that opens it and the mark. Only
the policy itself may hold newlines; the lines around it are fixed. -/
theorem flatMap_lines_policy (policy : String) :
    (Item.document "policy" policy).lines.flatMap textLines =
      documentStart :: (textLines (trimNewlines policy) ++ [documentMark]) := by
  have start : "  " ++ "policy" ++ " = <<" ++ documentMark = documentStart := by decide
  have opened : '\n' ∉ documentStart.toList := by decide
  have mark : '\n' ∉ documentMark.toList := by decide
  rw [Item.lines, start, List.flatMap_cons, List.flatMap_cons, List.flatMap_singleton,
    textLines_of_single opened, textLines_of_single mark, List.singleton_append]

/-- The lines of the tags are read back. Keys are identifiers or literals and values
are literals, so an entry stands on one line. -/
theorem flatMap_lines_tagsItem (settings : GeneratorSettings) (name : String) (tags : Tags) :
    (tagsItem settings name tags).lines.flatMap textLines = (tagsItem settings name tags).lines :=
  Item.flatMap_lines (show isIdentifier "tags" = true by decide)

/-- The lines that are read of a bucket with a policy. Of what stands before the
policy it is only said that no document is opened there; the rest is given line by
line, up to the empty lines behind the block. -/
theorem textLines_nodeCode_storage (settings : GeneratorSettings) (nodes : List Node)
    (edges : List Connection) (id : String) (position : Position) (attributes : Storage)
    (policy : String) :
    let node : Node :=
      { id, position, payload := .storage { attributes with policy := some policy } }
    ∃ front, documentStart ∉ front ∧
      textLines (nodeCode settings nodes edges node) =
        front ++ documentStart :: (textLines (trimNewlines policy) ++ documentMark ::
          ((tagsItem settings attributes.bucketName attributes.tags).lines ++
            [blockEnd, "", ""])) := by
  intro node
  let address : Address := ⟨"aws_s3_bucket", attributes.bucketName⟩
  refine ⟨Block.header address :: (storageFront attributes).flatMap Item.written, ?_, ?_⟩
  · exact List.not_mem_cons_of_ne_of_not_mem (header_opens address).1.symm
      (documentStart_not_mem_storageFront attributes)
  · have code : nodeCode settings nodes edges node = unlines (Block.lines
        ⟨address, storageItems settings { attributes with policy := some policy }⟩) :=
      congrArg unlines (List.flatMap_singleton ..)
    have ending : ["\x7d", ""].flatMap textLines = [blockEnd, ""] := flatMap_textLines (by decide)
    rw [code, textLines_unlines, Block.lines, List.flatMap_append, ending, storageItems_of_policy]
    simp [flatMap_lines_storageFront, flatMap_lines_policy, flatMap_lines_tagsItem,
      textLines_of_single (newline_not_mem_header _)]

/-- Take any bucket with a policy in any diagram. The code is what the nodes before
it add, what it adds, and what the nodes behind it add. Of the lines that it adds,
the first one that opens a document is that of its policy. Behind it stand the lines
of the policy without the newlines at its end, then the mark, and then the tags and
the end of the block. Whoever reads the document up to the first mark reads exactly
the policy, and the tags and the end of the block behind it, if and only if no line
of the policy is the mark.

Proof: the reader skips what stands before the policy, where no document is opened,
and then cuts at the first mark. The cut is the written one exactly if the trimmed
policy has no such line, and trimming takes away only empty lines. -/
theorem policy_ends_at_first_mark (settings : GeneratorSettings) (before after : List Node)
    (edges : List Connection) (id : String) (position : Position) (attributes : Storage)
    (policy : String) :
    let node : Node :=
      { id, position, payload := .storage { attributes with policy := some policy } }
    let code := nodeCode settings (before ++ node :: after) edges
    let content := textLines (trimNewlines policy)
    let behind := (tagsItem settings attributes.bucketName attributes.tags).lines ++
      [blockEnd, "", ""]
    generate settings (before ++ node :: after) edges =
        String.join (before.map code) ++ code node ++ String.join (after.map code) ∧
      (∃ front, documentStart ∉ front ∧
        textLines (code node) = front ++ documentStart :: (content ++ documentMark :: behind)) ∧
      firstDocument (textLines (code node)) =
        cutAt documentMark (content ++ documentMark :: behind) ∧
      (firstDocument (textLines (code node)) = (content, behind) ↔
        documentMark ∉ textLines policy) := by
  intro node code content behind
  have lines := textLines_nodeCode_storage settings (before ++ node :: after) edges id position
    attributes policy
  have document : firstDocument (textLines (code node)) =
      cutAt documentMark (content ++ documentMark :: behind) := by
    obtain ⟨front, unopened, read⟩ := lines
    change textLines (code node) = _ at read
    rw [firstDocument, read, cutAt_append unopened]
  refine ⟨?_, lines, document, ?_⟩
  · rw [generate_eq_join, List.map_append, List.map_cons, String.join_append, String.join_cons,
      String.append_assoc]
  · rw [document, cutAt_eq_iff]
    exact not_congr (mem_textLines_trimNewlines (by decide))

/-- A policy with the mark in it ends early, and its next line sets an argument of
the bucket. The bucket is private as far as its attributes say; the line that
follows the mark makes it public to whoever reads the code. -/
theorem policy_ends_early :
    ¬∀ (settings : GeneratorSettings) (nodes : List Node) (edges : List Connection) (node : Node)
      (attributes : Storage) (policy : String), node ∈ nodes → node.payload = .storage attributes →
      attributes.policy = some policy →
      firstDocument (textLines (nodeCode settings nodes edges node)) =
        (textLines (trimNewlines policy),
          (tagsItem settings attributes.bucketName attributes.tags).lines ++
            [blockEnd, "", ""]) := by
  intro contained
  let policy := "\x7b\x7d\nPOLICY\n  acl = \"public-read\"\n  note = <<POLICY"
  let attributes : Storage := { bucketName := "logs", policy := some policy }
  let node : Node := { id := "b", payload := .storage attributes }
  have early : firstDocument (textLines (nodeCode {} [node] [] node)) =
      (["\x7b\x7d"], ["  acl = \"public-read\"", "  note = <<POLICY", "POLICY", "  tags = \x7b",
        "    Name = \"logs\"", "    Environment = \"production\"", "  \x7d", "\x7d", "", ""]) := by
    decide +kernel
  have whole := contained {} [node] [] node attributes policy List.mem_cons_self rfl rfl
  rw [early] at whole
  revert whole
  decide +kernel

end CloudDiagram.Terraform
