import CloudDiagram.Proofs.Json.Strings
import CloudDiagram.Proofs.Terraform.Lines

/-!
# Literals and expressions are read back

A reader of literals goes from the opening quote to the one that closes it. It undoes
escapes and doubled signs, and it refuses a break, an unknown escape and a sign that
opens a template. What is printed as a literal meets none of these, is read as the text
it denotes, and leaves what stands behind it.

So literals can be told apart, and with them expressions: the first character of an
expression shows its kind, and what follows is a literal, a word, digits, a name between
two fixed texts, or an array of strings.
-/

namespace CloudDiagram.Terraform

/-- Why a literal cannot be read. None of it happens to a literal that the generator
wrote. -/
inductive LiteralFault where
  /-- The text ends before the literal does. -/
  | unfinished
  /-- The line ends before the literal does. -/
  | newline
  /-- A backslash stands before a character that it does not escape. -/
  | unknownEscape
  /-- A sign before a brace opens a template. -/
  | template
deriving DecidableEq, Repr

/-- The character that a letter after a backslash stands for. All other letters are
refused. -/
def literalEscape? : Char → Option Char
  | '"' => some '"'
  | '\\' => some '\\'
  | 'n' => some '\n'
  | 'r' => some '\r'
  | 't' => some '\t'
  | _ => none

/-- Whether a character opens a template when a brace follows it. Written twice, it
stands for itself. -/
def IsSigil (c : Char) : Prop := c = '$' ∨ c = '%'

instance (c : Char) : Decidable (IsSigil c) := inferInstanceAs (Decidable (_ ∨ _))

/-- Read a literal from behind its opening quote: the text it denotes, and what
stands behind its closing quote. The last character of a text has no successor and
is read in a case of its own. -/
def readLiteralBody : List Char → Except LiteralFault (List Char × List Char)
  | [] => .error .unfinished
  | [c] =>
    if c = '"' then .ok ([], []) else if c = '\n' then .error .newline else .error .unfinished
  | c :: next :: rest =>
    if c = '"' then .ok ([], next :: rest)
    else if c = '\n' then .error .newline
    else if c = '\\' then
      match literalEscape? next with
      | some meant => (readLiteralBody rest).map fun (text, after) => (meant :: text, after)
      | none => .error .unknownEscape
    else if IsSigil c ∧ next = '\x7b' then .error .template
    else if IsSigil c ∧ next = c ∧ rest.head? = some '\x7b' then
      (readLiteralBody rest).map fun (text, after) => (c :: text, after)
    else (readLiteralBody (next :: rest)).map fun (text, after) => (c :: text, after)

/-- A quote closes a literal, whether or not anything stands behind it. -/
theorem readLiteralBody_quote (rest : List Char) :
    readLiteralBody ('"' :: rest) = .ok ([], rest) := by
  cases rest <;> simp [readLiteralBody]

/-- A character is written with an escape, twice, or as it is. It is written twice
only if it is a sign before a brace, and as it is only if it needs no escape either.
-/
theorem literalChar_cases (c : Char) (after : List Char) :
    (∃ letter, literalEscape? letter = some c ∧ literalChar c after = ['\\', letter]) ∨
      (IsSigil c ∧ after.head? = some '\x7b' ∧ literalChar c after = [c, c]) ∨
      (c ≠ '"' ∧ c ≠ '\\' ∧ c ≠ '\n' ∧ ¬(IsSigil c ∧ after.head? = some '\x7b') ∧
        literalChar c after = [c]) := by
  by_cases quote : c = '"'
  · exact Or.inl ⟨'"', by subst c; exact ⟨rfl, rfl⟩⟩
  by_cases backslash : c = '\\'
  · exact Or.inl ⟨'\\', by subst c; exact ⟨rfl, rfl⟩⟩
  by_cases newline : c = '\n'
  · exact Or.inl ⟨'n', by subst c; exact ⟨rfl, rfl⟩⟩
  by_cases carriage : c = '\r'
  · exact Or.inl ⟨'r', by subst c; exact ⟨rfl, rfl⟩⟩
  by_cases tab : c = '\t'
  · exact Or.inl ⟨'t', by subst c; exact ⟨rfl, rfl⟩⟩
  refine Or.inr ?_
  rw [literalChar, if_neg quote, if_neg backslash, if_neg newline, if_neg carriage, if_neg tab]
  by_cases opens : IsSigil c ∧ after.head? = some '\x7b'
  · exact Or.inl ⟨opens.1, opens.2, if_pos opens⟩
  · exact Or.inr ⟨quote, backslash, newline, opens, if_neg opens⟩

/-- A sign is neither a quote nor a backslash, a newline or a brace, so none of the
tests that the reader makes first is passed by it. -/
theorem IsSigil.plain {c : Char} (sigil : IsSigil c) :
    c ≠ '"' ∧ c ≠ '\\' ∧ c ≠ '\n' ∧ c ≠ '\x7b' := by
  rcases sigil with rfl | rfl <;> decide

/-- A text that starts with a brace is written with that brace first, and no other
is. So the reader finds a brace behind a sign exactly where the writer saw one. -/
theorem head?_literalBody {text : List Char} (rest : List Char) :
    (literalBody text ++ '"' :: rest).head? = some '\x7b' ↔ text.head? = some '\x7b' := by
  cases text with
  | nil => simp [literalBody]
  | cons c text =>
    rw [literalBody]
    rcases literalChar_cases c text with
      ⟨letter, meant, written⟩ | ⟨_, _, written⟩ | ⟨_, _, _, _, written⟩
    · have other : c ≠ '\x7b' := by
        rintro rfl
        unfold literalEscape? at meant
        split at meant <;> simp at meant
      simp [written, other]
    · simp [written]
    · simp [written]

/-- A sign that would open a template is written twice, so one of it never stands
alone before a brace. -/
theorem literalBody_ne_sigil {c : Char} (sigil : IsSigil c) (text rest more : List Char) :
    literalBody text ++ '"' :: rest ≠ c :: '\x7b' :: more := by
  obtain ⟨quote, backslash, _, brace⟩ := sigil.plain
  intro same
  cases text with
  | nil => exact quote (List.cons.inj same).1.symm
  | cons first text =>
    rw [literalBody] at same
    rcases literalChar_cases first text with
      ⟨letter, _, written⟩ | ⟨_, _, written⟩ | ⟨_, _, _, alone, written⟩
    · rw [written] at same
      exact backslash (List.cons.inj same).1.symm
    · -- written twice, so the sign itself stands where the brace should be
      rw [written] at same
      obtain ⟨rfl, tails⟩ := List.cons.inj same
      exact brace (List.cons.inj tails).1
    · rw [written] at same
      obtain ⟨rfl, tails⟩ := List.cons.inj same
      exact alone ⟨sigil, (head?_literalBody rest).mp (congrArg List.head? tails)⟩

/-- What a literal writes for one character is read as that character. An escape is
undone, a doubled sign is read as one, and a character that stands as it is meets
neither the end, a break nor a template. The last needs the character that follows.
-/
theorem readLiteralBody_literalChar (c : Char) (text rest : List Char) :
    readLiteralBody (literalChar c text ++ (literalBody text ++ '"' :: rest)) =
      (readLiteralBody (literalBody text ++ '"' :: rest)).map
        fun (text, after) => (c :: text, after) := by
  obtain ⟨next, more, shape⟩ : ∃ next more, literalBody text ++ '"' :: rest = next :: more :=
    List.exists_cons_of_ne_nil (by simp)
  rcases literalChar_cases c text with
    ⟨letter, meant, written⟩ | ⟨sigil, brace, written⟩ |
      ⟨quote, backslash, newline, alone, written⟩
  · simp [written, readLiteralBody, meant]
  · obtain ⟨quote, backslash, newline, other⟩ := sigil.plain
    have first := (head?_literalBody rest).mpr brace
    rw [written, List.cons_append, List.singleton_append, readLiteralBody, if_neg quote,
      if_neg newline, if_neg backslash, if_neg (fun template => other template.2),
      if_pos ⟨sigil, rfl, first⟩]
  · have noTemplate : ¬(IsSigil c ∧ next = '\x7b') := by
      rintro ⟨sigil, rfl⟩
      exact alone ⟨sigil, (head?_literalBody rest).mp (by rw [shape]; rfl)⟩
    have notDoubled : ¬(IsSigil c ∧ next = c ∧ more.head? = some '\x7b') := by
      rintro ⟨sigil, rfl, brace⟩
      obtain ⟨tail, rfl⟩ := List.head?_eq_some_iff.mp brace
      exact literalBody_ne_sigil sigil text rest tail shape
    rw [written, List.singleton_append, shape, readLiteralBody, if_neg quote, if_neg newline,
      if_neg backslash, if_neg noTemplate, if_neg notDoubled]

/-- A literal is read from behind its opening quote as the text it denotes, and what
stands behind it is left. -/
theorem readLiteralBody_literalBody (text rest : List Char) :
    readLiteralBody (literalBody text ++ '"' :: rest) = .ok (text, rest) := by
  induction text with
  | nil => exact readLiteralBody_quote rest
  | cons c text inductionHypothesis =>
    rw [literalBody, List.append_assoc, readLiteralBody_literalChar, inductionHypothesis]
    rfl

/-- Read a literal off a text: the text that it denotes and what stands behind its
closing quote, or why it cannot be read. A text without a quote in front holds no
literal. -/
def readLiteral? (text : String) : Option (Except LiteralFault (String × String)) :=
  match text.toList with
  | '"' :: body =>
    some ((readLiteralBody body).map fun (denoted, rest) =>
      (String.ofList denoted, String.ofList rest))
  | _ => none

/-- Whatever a text holds, and whatever stands behind its literal, the literal is
read to its end, as the text that it was written for. No break, no unknown escape
and no template is met. -/
theorem literal_reads_back (text rest : String) :
    readLiteral? (literal text ++ rest) = some (.ok (text, rest)) := by
  have letters : (literal text ++ rest).toList =
      '"' :: (literalBody text.toList ++ '"' :: rest.toList) := by
    simp [literal]
  rw [readLiteral?, letters]
  simp [readLiteralBody_literalBody, Except.map]

/-- Only a doubled sign opens no template, and a break is refused. -/
example : readLiteral? "\"$$\x7ba\x7d %\x7b\"" = some (.error .template) ∧
    readLiteral? "\"a\nb\"" = some (.error .newline) := by decide

/-- A literal can be told from what stands behind it, since it is read back together
with it: the reader finds the one closing quote. -/
theorem literal_append_inj {text other : String} {rest others : List Char}
    (same : (literal text).toList ++ rest = (literal other).toList ++ others) :
    text = other ∧ rest = others := by
  have behind : literalBody text.toList ++ '"' :: rest =
      literalBody other.toList ++ '"' :: others := by
    simpa [literal] using same
  have read := congrArg readLiteralBody behind
  rw [readLiteralBody_literalBody, readLiteralBody_literalBody] at read
  obtain ⟨letters, tails⟩ := Prod.mk.inj (Except.ok.inj read)
  exact ⟨String.toList_inj.mp letters, tails⟩

/-- Literals of different texts differ, being literals with nothing behind them. -/
theorem literal_inj {text other : String} (same : literal text = literal other) : text = other :=
  (literal_append_inj (congrArg (String.toList · ++ []) same)).1

/-- Two expressions that are printed alike are equal. Their first character shows
that they are of one kind, and within a kind the printed text is read back. -/
theorem Expression.print_inj {value other : Expression} (same : value.print = other.print) :
    value = other := by
  -- the first character tells the form, so only equal forms are left to compare
  have kind : value.lead = other.lead := by
    have shown := value.lead_print
    rw [same, other.lead_print] at shown
    exact (Option.some.inj shown).symm
  cases value with
  | text content =>
    cases other with
    | text content' => exact congrArg text (literal_inj same)
    | flag _ | size _ | subnetId _ | texts _ => cases kind
  | flag set =>
    cases other with
    | flag set' =>
      revert same
      cases set <;> cases set' <;> decide
    | text _ | size _ | subnetId _ | texts _ => cases kind
  | size count =>
    cases other with
    | size count' =>
      have digits : Nat.toDigits 10 count.toNat = Nat.toDigits 10 count'.toNat := by
        simpa [print] using congrArg String.toList same
      have numbers := congrArg (Nat.ofDigitChars 10 · 0) digits
      rw [Nat.ofDigitChars_ten_toDigits, Nat.ofDigitChars_ten_toDigits] at numbers
      exact congrArg size (UInt32.toNat_inj.mp numbers)
    | text _ | flag _ | subnetId _ | texts _ => cases kind
  | subnetId name =>
    cases other with
    | subnetId name' =>
      have letters : name.toList = name'.toList := by
        simpa [print] using congrArg String.toList same
      exact congrArg subnetId (String.toList_inj.mp letters)
    | text _ | flag _ | size _ | texts _ => cases kind
  | texts items =>
    cases other with
    | texts items' =>
      have letters := congrArg String.toList same
      simp only [print, Json.Value.ofTexts, Json.Value.text, Json.Value.chars,
        String.toList_ofList] at letters
      have inner := List.append_cancel_right (List.cons.inj letters).2
      exact congrArg texts (Json.itemsChars_inj inner)
    | text _ | flag _ | size _ | subnetId _ => cases kind

/-- An identifier does not start with a quote, nor does the space behind an empty
name. So a bare key and a quoted one are never written alike. -/
theorem identifier_ne_quote {name : String} {rest others : List Char}
    (identifier : isIdentifier name = true) : name.toList ++ ' ' :: rest ≠ '"' :: others := by
  intro same
  cases letters : name.toList with
  | nil =>
    rw [letters] at same
    cases (List.cons.inj same).1
  | cons first more =>
    rw [letters] at same
    have quote : '"' ∈ name.toList := by
      rw [letters, (List.cons.inj same).1]
      exact List.mem_cons_self
    have continues := continues_of_mem_identifier identifier quote
    revert continues
    decide

/-- A key can be told from what stands behind the space after it. A bare key ends at
that space, and a quoted one is a literal. -/
theorem mappingKey_append_inj {key other : String} {rest others : List Char}
    (same : (mappingKey key).toList ++ ' ' :: rest = (mappingKey other).toList ++ ' ' :: others) :
    key = other ∧ rest = others := by
  rw [mappingKey, mappingKey] at same
  by_cases bare : isIdentifier key = true
  · rw [if_pos bare] at same
    by_cases bare' : isIdentifier other = true
    · rw [if_pos bare'] at same
      obtain ⟨letters, tails⟩ := eq_of_append_cons_eq (space_not_mem_identifier bare)
        (space_not_mem_identifier bare') same
      exact ⟨String.toList_inj.mp letters, tails⟩
    · rw [if_neg bare', literal, String.toList_ofList] at same
      exact absurd same (identifier_ne_quote bare)
  · rw [if_neg bare] at same
    by_cases bare' : isIdentifier other = true
    · rw [if_pos bare', literal, String.toList_ofList] at same
      exact absurd same.symm (identifier_ne_quote bare')
    · rw [if_neg bare'] at same
      obtain ⟨keys, tails⟩ := literal_append_inj same
      exact ⟨keys, (List.cons.inj tails).2⟩

end CloudDiagram.Terraform
