import CloudDiagram.Terraform.Block
import Mathlib.Data.List.DropRight

/-!
# The lines of a text

A text is read line by line. Lines that are printed one after another are read back,
each with the lines it holds itself, so a line that holds no newline is read as it is.

Every expression is printed on one line: literals escape their breaks, a list of texts
is JSON without blanks between its parts, and a bare name is an identifier. The first
character of an expression shows of which kind it is.
-/

namespace CloudDiagram.Terraform

/-- The lines of a text. A newline ends one line and starts the next, so a text that
ends in a newline has an empty last line. -/
def textLines (text : String) : List String := (text.toList.splitOn '\n').map String.ofList

/-- A text without a newline is one line. This is what makes a printed line readable
again, and the lemmas below show it for each kind of text that is printed. -/
theorem textLines_of_single {line : String} (single : '\n' ∉ line.toList) :
    textLines line = [line] := by
  simp [textLines, List.splitOn_eq_singleton single]

/-- A newline separates the lines before it from those after it. The two sides are
split independently of each other. -/
theorem textLines_append_newline (first second : List Char) :
    textLines (String.ofList (first ++ '\n' :: second)) =
      textLines (String.ofList first) ++ textLines (String.ofList second) := by
  simp [textLines, List.splitOn_append_cons_self]

/-- Lines that are printed are read back, each with the lines it holds itself, and
one empty line stands behind the last newline. -/
theorem textLines_unlines (lines : List String) :
    textLines (unlines lines) = lines.flatMap textLines ++ [""] := by
  induction lines with
  | nil => rfl
  | cons line rest inductionHypothesis =>
    have joined : unlines (line :: rest) =
        String.ofList (line.toList ++ '\n' :: (unlines rest).toList) := by
      simp [unlines]
    rw [joined, textLines_append_newline, String.ofList_toList, String.ofList_toList,
      inductionHypothesis, List.flatMap_cons, List.append_assoc]

/-- Lines that hold no newline are read back as they are. It is used for the fixed
lines that end a block. -/
theorem flatMap_textLines {lines : List String} (single : ∀ line ∈ lines, '\n' ∉ line.toList) :
    lines.flatMap textLines = lines := by
  induction lines with
  | nil => rfl
  | cons line rest inductionHypothesis =>
    obtain ⟨first, others⟩ := List.forall_mem_cons.mp single
    rw [List.flatMap_cons, textLines_of_single first, inductionHypothesis others]
    rfl

/-- Two lists that agree up to the first place of an element agree before and after
it. Both sides are walked together until one of them reaches the mark. -/
theorem eq_of_append_cons_eq {α : Type} {mark : α} {first second rest others : List α}
    (absent : mark ∉ first) (missing : mark ∉ second)
    (same : first ++ mark :: rest = second ++ mark :: others) : first = second ∧ rest = others := by
  induction first generalizing second with
  | nil =>
    cases second with
    | nil => exact ⟨rfl, (List.cons.inj same).2⟩
    | cons c second =>
      have first := (List.cons.inj same).1
      exact absurd (first ▸ List.mem_cons_self) missing
  | cons c first inductionHypothesis =>
    cases second with
    | nil =>
      have first := (List.cons.inj same).1
      exact absurd (first ▸ List.mem_cons_self) absent
    | cons d second =>
      obtain ⟨rfl, tails⟩ := List.cons.inj same
      obtain ⟨rfl, rfl⟩ := inductionHypothesis (List.not_mem_of_not_mem_cons absent)
        (List.not_mem_of_not_mem_cons missing) tails
      exact ⟨rfl, rfl⟩

/-- Every character of an identifier may follow in one. The first character is more
restricted than the others, and the wider condition is all that is needed of it. -/
theorem continues_of_mem_identifier {name : String} {c : Char}
    (identifier : isIdentifier name = true) (member : c ∈ name.toList) :
    continuesIdentifier c = true := by
  unfold isIdentifier at identifier
  cases letters : name.toList with
  | nil => rw [letters] at member; cases member
  | cons first rest =>
    rw [letters] at identifier member
    obtain ⟨starts, continues⟩ := (Bool.and_eq_true _ _).mp identifier
    rcases List.mem_cons.mp member with rfl | later
    · rcases (Bool.or_eq_true _ _).mp starts with letter | underscore
      · simp [continuesIdentifier, Char.isAlphanum, letter]
      · simp [continuesIdentifier, underscore]
    · exact List.all_eq_true.mp continues c later

/-- An identifier holds no newline, since a newline may not follow in one. Bare
names and keys therefore never break a line. -/
theorem newline_not_mem_identifier {name : String} (identifier : isIdentifier name = true) :
    '\n' ∉ name.toList := by
  intro member
  have continues := continues_of_mem_identifier identifier member
  revert continues
  decide

/-- An identifier holds no space. The first space of a line that opens an item
therefore ends its name. -/
theorem space_not_mem_identifier {name : String} (identifier : isIdentifier name = true) :
    ' ' ∉ name.toList := by
  intro member
  have continues := continues_of_mem_identifier identifier member
  revert continues
  decide

/-- A literal holds no newline. Each newline of the text is written as an escape of
two characters, and the quotes around it are none. -/
theorem newline_not_mem_literal (text : String) : '\n' ∉ (literal text).toList := by
  simp [literal, newline_not_mem_literalBody]

/-- The digits of a number hold no newline: whatever stands among them is a digit.
-/
theorem newline_not_mem_toDigits (number : Nat) : '\n' ∉ Nat.toDigits 10 number := by
  intro member
  have digit := Nat.isDigit_of_mem_toDigits (by decide) (by decide) member
  revert digit
  decide

/-- A character inside a JSON string is written without a newline. Control
characters are escaped, and the digits of an escape are hexadecimal. -/
theorem newline_not_mem_escapedChar (c : Char) : '\n' ∉ Json.escapedChar c := by
  have digit (value : Nat) : Nat.digitChar value ≠ '\n' := by grind [Nat.digitChar]
  unfold Json.escapedChar
  repeat' split
  all_goals simp_all [eq_comm]

/-- A JSON array of texts holds no newline. Between its items stands a comma and
nothing else, so the items alone decide. -/
theorem newline_not_mem_itemsChars (texts : List String) :
    '\n' ∉ Json.Value.itemsChars (texts.map .string) := by
  have quoted (text : String) : '\n' ∉ Json.quotedChars text := by
    simp [Json.quotedChars, newline_not_mem_escapedChar]
  induction texts with
  | nil => simp [Json.Value.itemsChars]
  | cons text rest inductionHypothesis =>
    cases rest with
    | nil => simpa [Json.Value.itemsChars, Json.Value.chars] using quoted text
    | cons next rest =>
      simp only [List.map_cons] at inductionHypothesis ⊢
      simp [Json.Value.itemsChars, Json.Value.chars, quoted text, inductionHypothesis]

/-- A bare name in an expression is an identifier. All other parts of an expression
are written so that they need no condition. -/
def Expression.WellFormed : Expression → Prop
  | .subnetId name => isIdentifier name = true
  | .text _ | .flag _ | .size _ | .texts _ => True

/-- A well-formed expression is printed on one line. Of the five kinds only a bare
name needs the condition; the others hold no newline whatever their content is. -/
theorem Expression.newline_not_mem_print {value : Expression} (wellFormed : value.WellFormed) :
    '\n' ∉ value.print.toList := by
  cases value with
  | text content => exact newline_not_mem_literal content
  | flag set => cases set <;> decide
  | size count => simpa [print] using newline_not_mem_toDigits count.toNat
  | subnetId name => simp [print, newline_not_mem_identifier wellFormed]
  | texts items =>
    simp [print, Json.Value.ofTexts, Json.Value.text, Json.Value.chars,
      newline_not_mem_itemsChars]

/-- The kind of an expression, as far as its first character shows it. No two kinds
of expression start alike, which is what makes printed values unambiguous. -/
inductive Lead where
  | quote
  | word
  | digit
  | name
  | bracket
deriving DecidableEq, Repr

/-- What starts with a character, and nothing for a character that starts no
expression. -/
def Lead.ofChar? (c : Char) : Option Lead :=
  if c = '"' then some quote
  else if c = 't' ∨ c = 'f' then some word
  else if c.isDigit then some digit
  else if c = 'a' then some name
  else if c = '[' then some bracket
  else none

/-- What an expression starts with. -/
def Expression.lead : Expression → Lead
  | .text _ => .quote
  | .flag _ => .word
  | .size _ => .digit
  | .subnetId _ => .name
  | .texts _ => .bracket

/-- A character that is a digit starts a number. None of the tests made before it is
passed by a digit. -/
theorem Lead.ofChar?_digit {c : Char} (isDigit : c.isDigit = true) : ofChar? c = some digit := by
  have quote : c ≠ '"' := by rintro rfl; revert isDigit; decide
  have word : ¬(c = 't' ∨ c = 'f') := by rintro (rfl | rfl) <;> revert isDigit <;> decide
  rw [ofChar?, if_neg quote, if_neg word, if_pos isDigit]

/-- The first character of an expression shows its kind. A number has at least one
digit, and the other kinds start with a fixed character or one of two words. -/
theorem Expression.lead_print (value : Expression) :
    value.print.toList.head?.bind Lead.ofChar? = some value.lead := by
  cases value with
  | text content => simp [print, literal, lead, Lead.ofChar?]
  | flag set => cases set <;> decide
  | size count =>
    have written : (print (.size count)).toList = Nat.toDigits 10 count.toNat := by simp [print]
    have nonempty : Nat.toDigits 10 count.toNat ≠ [] := Nat.toDigits_ne_nil
    obtain ⟨c, rest, digits⟩ := List.exists_cons_of_ne_nil nonempty
    have isDigit : c.isDigit = true :=
      Nat.isDigit_of_mem_toDigits (by decide) (by decide) (digits ▸ List.mem_cons_self)
    rw [written, digits]
    exact Lead.ofChar?_digit isDigit
  | subnetId name => simp [print, lead, Lead.ofChar?]
  | texts items =>
    simp [print, lead, Lead.ofChar?, Json.Value.ofTexts, Json.Value.text, Json.Value.chars]

/-- A text with another first character is not printed for an expression. It tells a
value apart from the sign that opens a nested block, a mapping or a document. -/
theorem Expression.print_ne {text : List Char} (other : text.head?.bind Lead.ofChar? = none)
    (value : Expression) : value.print.toList ≠ text := by
  rintro rfl
  have shown := value.lead_print
  rw [other] at shown
  cases shown

/-- A key of a mapping is printed on one line. A key that is no identifier is
written as a literal, and both hold no newline. -/
theorem newline_not_mem_mappingKey (key : String) : '\n' ∉ (mappingKey key).toList := by
  by_cases bare : isIdentifier key = true
  · simpa [mappingKey, bare] using newline_not_mem_identifier bare
  · simpa [mappingKey, bare] using newline_not_mem_literal key

/-- The line that opens a block holds no newline. Both parts of the address are
written as literals, whatever the name is. -/
theorem newline_not_mem_header (address : Address) : '\n' ∉ (Block.header address).toList := by
  simp [Block.header, newline_not_mem_literal]

/-- What is trimmed off a text are newlines. The text is what is left of it with
some newlines behind. -/
theorem exists_trimNewlines (text : String) :
    ∃ ending, text.toList = (trimNewlines text).toList ++ ending ∧ ∀ c ∈ ending, c = '\n' := by
  refine ⟨(text.toList.reverse.takeWhile (· = '\n')).reverse, ?_, fun c member => ?_⟩
  · rw [trimNewlines, String.toList_ofList, ← List.reverse_append,
      List.takeWhile_append_dropWhile, List.reverse_reverse]
  · have newline := List.mem_takeWhile_imp (List.mem_reverse.mp member)
    exact of_decide_eq_true newline

/-- A trimmed text has no newline at its end to be trimmed. Trimmed blocks are
therefore printed as the blocks themselves are. -/
theorem trimNewlines_trimNewlines (text : String) :
    trimNewlines (trimNewlines text) = trimNewlines text := by
  simp [trimNewlines, List.dropWhile_idempotent]

/-- A text of newlines has empty lines only. It stands behind a newline, so its
lines are those that trimming removes. -/
theorem eq_empty_of_mem_textLines {text : List Char} (newlines : ∀ c ∈ text, c = '\n')
    {line : String} (member : line ∈ textLines (String.ofList text)) : line = "" := by
  induction text with
  | nil => exact List.mem_singleton.mp member
  | cons c rest inductionHypothesis =>
    obtain ⟨rfl, others⟩ := List.forall_mem_cons.mp newlines
    rw [← List.nil_append ('\n' :: rest), textLines_append_newline] at member
    rcases List.mem_append.mp member with first | later
    · exact List.mem_singleton.mp first
    · exact inductionHypothesis others later

/-- Trimming a text takes empty lines from its end, and nothing else. If nothing is
trimmed there are no such lines; otherwise the first newline that is taken off
separates them. -/
theorem textLines_trimNewlines (text : String) :
    ∃ empties, textLines text = textLines (trimNewlines text) ++ empties ∧
      ∀ line ∈ empties, line = "" := by
  obtain ⟨ending, whole, newlines⟩ := exists_trimNewlines text
  cases ending with
  | nil =>
    have same : trimNewlines text = text := String.toList_inj.mp (by simpa using whole.symm)
    exact ⟨[], by simp [same], nofun⟩
  | cons c rest =>
    obtain ⟨rfl, others⟩ := List.forall_mem_cons.mp newlines
    have split := textLines_append_newline (trimNewlines text).toList rest
    rw [← whole, String.ofList_toList, String.ofList_toList] at split
    exact ⟨textLines (String.ofList rest), split, fun _ => eq_empty_of_mem_textLines others⟩

/-- Trimming a text adds no line to it: what is left are the first lines of the
text. -/
theorem mem_textLines_of_trimNewlines {text line : String}
    (member : line ∈ textLines (trimNewlines text)) : line ∈ textLines text := by
  obtain ⟨empties, whole, -⟩ := textLines_trimNewlines text
  rw [whole]
  exact List.mem_append_left empties member

/-- Trimming a text takes no line from it but empty ones. The mark of a document is
not empty, so it stands in a policy exactly if it stands in the trimmed policy. -/
theorem mem_textLines_trimNewlines {text line : String} (nonempty : line ≠ "") :
    line ∈ textLines (trimNewlines text) ↔ line ∈ textLines text := by
  constructor
  · exact mem_textLines_of_trimNewlines
  · intro member
    obtain ⟨empties, whole, empty⟩ := textLines_trimNewlines text
    rw [whole] at member
    rcases List.mem_append.mp member with kept | cut
    · exact kept
    · exact absurd (empty line cut) nonempty

end CloudDiagram.Terraform
