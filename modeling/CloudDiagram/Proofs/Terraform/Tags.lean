import CloudDiagram.Proofs.Resource.Unreadable
import CloudDiagram.Proofs.Terraform.Readable

/-!
# Tags are read back as they were set

A mapping is read line by line. Behind the line that opens it each line holds a key, an equals
sign and a literal, up to the line that closes it. A key is an identifier as it stands, or a
literal; which of them it is shows in its first character. Every mapping that is printed is read
as its entries in their order, whatever characters keys and values have: none of them leaves its
line, and none is taken for another one.

The tags of a resource are such a mapping. The name and the environment come first. What a user
sets under these two keys besides is not written, so no key stands twice.
-/

namespace CloudDiagram

/-- Of ordered entries exactly those are found that there are. Keys do not repeat,
so the first entry of a key is the only one. -/
theorem Entries.Ordered.mem_iff {α : Type} {entries : List (String × α)}
    (ordered : Ordered entries) {key : String} {value : α} :
    (key, value) ∈ entries ↔ get? entries key = some value := by
  have found : (key, value) ∈ entries ↔
      (key, value) ∈ entries.filter fun entry => entry.1 = key := by simp
  rw [found, ordered.filter_key]
  simp

namespace Terraform

/-- Read a key off a line: a literal, or else the longest identifier. What stands
behind it is left. -/
def readKey? : List Char → Option (String × List Char)
  | '"' :: body => (readLiteralBody body).toOption.map fun (key, rest) => (String.ofList key, rest)
  | text =>
    let key := String.ofList (text.takeWhile continuesIdentifier)
    if isIdentifier key then some (key, text.dropWhile continuesIdentifier) else none

/-- Read the value of an entry: an equals sign between two spaces, and a literal
that ends the line. -/
def readValue? : List Char → Option String
  | ' ' :: '=' :: ' ' :: '"' :: body =>
    match readLiteralBody body with
    | .ok (value, []) => some (String.ofList value)
    | .ok (_, _ :: _) | .error _ => none
  | _ => none

/-- Read the line of an entry: four blanks, a key, and a value behind it. -/
def readTag? (line : String) : Option (String × String) := do
  let text ← line.toList.dropPrefix? [' ', ' ', ' ', ' ']
  let (key, rest) ← readKey? text
  let value ← readValue? rest
  return (key, value)

/-- Read entries line by line up to the closing line, which has to be the last one.
-/
def readEntries? : List String → Option (List (String × String))
  | [] => none
  | line :: rest =>
    if line = itemEnd then if rest = [""] then some [] else none
    else do
      let entry ← readTag? line
      let others ← readEntries? rest
      return entry :: others

/-- Read a text that is a mapping of the given name, and nothing else. What it reads
is only what any reader of the code would see. -/
def readMapping? (name text : String) : Option (List (String × String)) :=
  match textLines text with
  | [] => none
  | line :: rest => if line = opening name "= \x7b" then readEntries? rest else none

/-- A key is read up to the space behind it, bare or quoted. A bare key holds no
quote and ends where the identifier does. -/
theorem readKey?_mappingKey (key : String) (rest : List Char) :
    readKey? ((mappingKey key).toList ++ ' ' :: rest) = some (key, ' ' :: rest) := by
  by_cases bare : isIdentifier key = true
  · have continues : ∀ c ∈ key.toList, continuesIdentifier c = true := fun _ member =>
      continues_of_mem_identifier bare member
    have ends : continuesIdentifier ' ' = false := by decide
    have quoted (body : List Char) : key.toList ++ ' ' :: rest ≠ '"' :: body :=
      identifier_ne_quote bare
    rw [mappingKey, if_pos bare, readKey?.eq_2 _ quoted]
    simp [List.takeWhile_append_of_pos continues, List.dropWhile_append_of_pos continues, ends,
      bare]
  · have written : (mappingKey key).toList ++ ' ' :: rest =
        '"' :: (literalBody key.toList ++ '"' :: ' ' :: rest) := by
      simp [mappingKey, bare, literal]
    rw [written, readKey?, readLiteralBody_literalBody]
    simp [Except.toOption]

/-- A literal behind the equals sign is read as the value that it was written for,
and it ends the line. -/
theorem readValue?_literal (value : String) :
    readValue? (' ' :: '=' :: ' ' :: (literal value).toList) = some value := by
  have read := readLiteralBody_literalBody value.toList []
  simp [literal, readValue?, read]

/-- The line of an entry is read as that entry, whatever characters its key and its
value hold. -/
theorem readTag?_entryLine (entry : String × String) :
    readTag? (entryLine entry) = some entry := by
  obtain ⟨key, value⟩ := entry
  have letters : (entryLine (key, value)).toList = [' ', ' ', ' ', ' '] ++
      ((mappingKey key).toList ++ ' ' :: ('=' :: ' ' :: (literal value).toList)) := by
    simp [entryLine]
  have dropped : (entryLine (key, value)).toList.dropPrefix? [' ', ' ', ' ', ' '] =
      some ((mappingKey key).toList ++ ' ' :: ('=' :: ' ' :: (literal value).toList)) :=
    List.dropPrefix?_eq_some_iff.mpr ⟨_, letters, beq_self_eq_true _⟩
  simp [readTag?, dropped, readKey?_mappingKey, readValue?_literal]

/-- Entries are read from their lines, in their order. None of the lines is taken
for the end, because all of them are indented further. -/
theorem readEntries?_entryLines (entries : List (String × String)) :
    readEntries? (entries.map entryLine ++ [itemEnd, ""]) = some entries := by
  induction entries with
  | nil => decide
  | cons entry rest inductionHypothesis =>
    have other : entryLine entry ≠ itemEnd := (entryLine_indented entry).ne_itemEnd
    rw [List.map_cons, List.cons_append, readEntries?, if_neg other, inductionHypothesis,
      readTag?_entryLine]
    rfl

/-- A printed mapping is read as its entries, whatever characters they have. None of
them breaks its line, so the lines that are read are those that were printed. -/
theorem readMapping?_mapping {name : String} (identifier : isIdentifier name = true)
    (entries : List (String × String)) :
    readMapping? name (unlines (Item.mapping name entries).lines) = some entries := by
  have wellFormed : (Item.mapping name entries).WellFormed := identifier
  have lines : textLines (unlines (Item.mapping name entries).lines) =
      opening name "= \x7b" :: (entries.map entryLine ++ [itemEnd, ""]) := by
    rw [textLines_unlines, Item.flatMap_lines wellFormed]
    simp [Item.written, Item.body, Item.name, Item.sign]
  simp [readMapping?, lines, readEntries?_entryLines]

/-- The environment is that of the resource if it has one that is not empty, and
else that of the settings. -/
theorem environment_eq (settings : GeneratorSettings) (tags : Tags) :
    environment settings tags =
      ((tags.get? "Environment").filter fun own => own ≠ "").getD settings.environment := by
  cases own : tags.get? "Environment" with
  | none => simp [environment, own]
  | some text => by_cases empty : text = "" <;> simp [environment, own, empty, Option.filter]

/-- The tags that are written besides the name and the environment stand in key
order. They are the tags of a table, which keeps its keys in order, with some left
out. -/
theorem ordered_extraTags (settings : GeneratorSettings) (tags : Tags) :
    Entries.Ordered (extraTags settings tags) := by
  by_cases extra : settings.extraTags = true
  · rw [extraTags, if_pos extra]
    exact tags.ordered.filter _
  · rw [extraTags, if_neg extra]
    exact .nil

/-- If other tags are written, these are all but those of the name and the
environment. The two are written first and from elsewhere. -/
theorem mem_extraTags {settings : GeneratorSettings} (extra : settings.extraTags = true)
    {tags : Tags} {key value : String} :
    (key, value) ∈ extraTags settings tags ↔
      tags.get? key = some value ∧ key ≠ "Name" ∧ key ≠ "Environment" := by
  simp only [extraTags, extra, if_true, List.mem_filter, decide_eq_true_eq]
  exact and_congr_left fun _ => tags.ordered.mem_iff

/-- No tag besides the name and the environment has one of their keys, whether or
not other tags are written at all. -/
theorem key_ne_of_mem_extraTags {settings : GeneratorSettings} {tags : Tags}
    {entry : String × String} (member : entry ∈ extraTags settings tags) :
    entry.1 ≠ "Name" ∧ entry.1 ≠ "Environment" := by
  by_cases extra : settings.extraTags = true
  · exact ((mem_extraTags extra).mp member).2
  · rw [extraTags, if_neg extra] at member
    cases member

/-- Whatever the name, the tags and the settings are, what is printed as the tags of
a resource is read line by line as a list of keys and values. First comes the name,
and then the environment, which is that of the tags unless it is absent or empty.
Behind them stand, if the settings ask for it, all other tags, each with its value
and in strictly increasing order of keys. All keys are different, so no tag replaces
or repeats the name or the environment. -/
theorem tags_read_back (settings : GeneratorSettings) (name : String) (tags : Tags) :
    ∃ environment others,
      readMapping? "tags" (unlines (tagsItem settings name tags).lines) =
        some (("Name", name) :: ("Environment", environment) :: others) ∧
      environment =
        ((tags.get? "Environment").filter fun own => own ≠ "").getD settings.environment ∧
      (settings.extraTags = false → others = []) ∧
      (settings.extraTags = true → ∀ key value, (key, value) ∈ others ↔
        tags.get? key = some value ∧ key ≠ "Name" ∧ key ≠ "Environment") ∧
      Entries.Ordered others ∧
      ((("Name", name) :: ("Environment", environment) :: others).map Prod.fst).Nodup := by
  have ordered := ordered_extraTags settings tags
  refine ⟨environment settings tags, extraTags settings tags, ?_, environment_eq settings tags,
    ?_, ?_, ordered, ?_⟩
  · exact readMapping?_mapping (by decide) _
  · intro plain
    simp [extraTags, plain]
  · exact fun extra key value => mem_extraTags extra
  · have distinct : ((extraTags settings tags).map Prod.fst).Nodup :=
      List.pairwise_map.mpr (ordered.imp fun lower => String.ne_of_lt lower)
    have others : ∀ key ∈ (extraTags settings tags).map Prod.fst,
        key ≠ "Name" ∧ key ≠ "Environment" :=
      List.forall_mem_map.mpr fun _ member => key_ne_of_mem_extraTags member
    rw [List.map_cons, List.map_cons, List.nodup_cons, List.nodup_cons, List.mem_cons, not_or]
    have apart : "Name" ≠ "Environment" := by decide
    exact ⟨⟨apart, fun again => (others _ again).1 rfl⟩, fun again => (others _ again).2 rfl,
      distinct⟩

/-- Keys and values that look like code are read back, and a tag `Name` is not written twice. -/
example :
    let tags : Tags := Table.ofList
      [("Name", "other"), ("a = \"b\"\n  \x7d", "$\x7bx\x7d"), ("Environment", ""), ("z-1", "\"")]
    readMapping? "tags" (unlines (tagsItem {} "n" tags).lines) =
      some [("Name", "n"), ("Environment", "production"), ("a = \"b\"\n  \x7d", "$\x7bx\x7d"),
        ("z-1", "\"")] := by decide +kernel

end Terraform

end CloudDiagram
