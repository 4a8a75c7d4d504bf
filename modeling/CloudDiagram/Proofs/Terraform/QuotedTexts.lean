import CloudDiagram.Proofs.Json.Strings
import CloudDiagram.Proofs.Terraform.Literals

/-!
# Quoted texts

The code is read by rules of its own language: a text between quotes may escape more than
literals do, by numbers of four or eight digits too. JSON quotes and escapes nearly alike. But a
sign before a brace is an ordinary text in JSON and opens a template in the code; written twice, it
is read once; and two of the controls have letters in JSON that stand for nothing in the code.

So a text that is written as a JSON string is read back exactly if it holds none of these. Written
as a literal it is read back in any case.
-/

namespace CloudDiagram.Terraform

/-- The character whose number is given by hexadecimal digits, if there is one.
Surrogates and numbers beyond the last character have none. -/
def numberedChar? (digits : List Char) : Option Char := do
  let values ← digits.mapM Json.hexDigit?
  let number := values.foldl (fun number value => number * 16 + value) 0
  if number.isValidChar then some (Char.ofNat number) else none

/-- A character by its number, in the given count of digits, and the text behind
them. A number with too few digits is refused. -/
def readNumbered? (count : Nat) (text : List Char) : Option (Char × List Char) :=
  if count ≤ text.length then (numberedChar? (text.take count)).map (·, text.drop count) else none

/-- What stands behind a backslash: a character by its letter or by its number. JSON
knows two letters more, and numbers of four digits only. -/
def readEscape? : List Char → Option (Char × List Char)
  | [] => none
  | letter :: rest =>
    if letter = 'u' then readNumbered? 4 rest
    else if letter = 'U' then readNumbered? 8 rest
    else (literalEscape? letter).map (·, rest)

/-- Read a quoted text from behind its opening quote, up to its closing one: the
next character that it denotes, or that it ends there. -/
def readChar : List Char → Except LiteralFault (Option Char × List Char)
  | [] => .error .unfinished
  | c :: rest =>
    if c = '"' then .ok (none, rest)
    else if c = '\n' then .error .newline
    else if c = '\\' then
      match readEscape? rest with
      | some (meant, after) => .ok (some meant, after)
      | none => .error .unknownEscape
    else if IsSigil c ∧ rest.head? = some '\x7b' then .error .template
    else if IsSigil c ∧ rest.head? = some c ∧ rest.tail.head? = some '\x7b' then
      .ok (some c, rest.tail)
    else .ok (some c, rest)

/-- Read a quoted text from behind its opening quote. The first argument bounds the
number of characters, and the length of the text is enough. -/
def readQuotedWithin : Nat → List Char → Except LiteralFault (List Char × List Char)
  | 0, _ => .error .unfinished
  | bound + 1, text =>
    match readChar text with
    | .error fault => .error fault
    | .ok (none, rest) => .ok ([], rest)
    | .ok (some c, rest) => (readQuotedWithin bound rest).map fun (more, after) => (c :: more, after)

section

variable {bound : Nat} {text rest : List Char}

/-- A fault ends the reading, whatever was read before it. -/
theorem readQuotedWithin_of_error (enough : 0 < bound) {fault : LiteralFault}
    (read : readChar text = .error fault) : readQuotedWithin bound text = .error fault := by
  obtain ⟨bound, rfl⟩ := Nat.exists_eq_succ_of_ne_zero (Nat.ne_of_gt enough)
  rw [readQuotedWithin, read]

/-- The closing quote ends the reading; what stands behind it is left. -/
theorem readQuotedWithin_of_none (enough : 0 < bound) (read : readChar text = .ok (none, rest)) :
    readQuotedWithin bound text = .ok ([], rest) := by
  obtain ⟨bound, rfl⟩ := Nat.exists_eq_succ_of_ne_zero (Nat.ne_of_gt enough)
  rw [readQuotedWithin, read]

/-- Behind a character the reading goes on, with one character less to come. -/
theorem readQuotedWithin_of_some {c : Char} (read : readChar text = .ok (some c, rest)) :
    readQuotedWithin (bound + 1) text =
      (readQuotedWithin bound rest).map fun (more, after) => (c :: more, after) := by
  rw [readQuotedWithin, read]

end

/-- Read a quoted text from behind its opening quote: what it denotes, and what
stands behind its closing quote. -/
def readQuoted (text : List Char) : Except LiteralFault (String × List Char) :=
  (readQuotedWithin text.length text).map fun (denoted, rest) => (String.ofList denoted, rest)

/-- What a text is read as that is written as a JSON string: the sign of a template
is refused, and so are two of the controls; of a doubled sign before a brace one is
left out. -/
def readBack : List Char → Except LiteralFault (List Char)
  | [] => .ok []
  | c :: rest =>
    if c = '\x08' ∨ c = '\x0c' then .error .unknownEscape
    else if IsSigil c ∧ rest.head? = some '\x7b' then .error .template
    else if IsSigil c ∧ rest.head? = some c ∧ rest.tail.head? = some '\x7b' then
      (readBack rest.tail).map (c :: ·)
    else (readBack rest).map (c :: ·)
termination_by text => text.length

/-- What both languages write alike, or at least read alike: no sign stands before a
brace, and the two controls are absent that only JSON has letters for. -/
def Common (text : List Char) : Prop :=
  '\x08' ∉ text ∧ '\x0c' ∉ text ∧ ¬['$', '\x7b'] <:+: text ∧ ¬['%', '\x7b'] <:+: text

/-- Nothing is lost of a text by its first character but what that does with the
next one. This splits the condition as the recursion of `readBack` splits the text.
-/
theorem common_cons {c : Char} {rest : List Char} :
    Common (c :: rest) ↔ ¬(c = '\x08' ∨ c = '\x0c') ∧
      ¬(IsSigil c ∧ rest.head? = some '\x7b') ∧ Common rest := by
  have opens (sigil : Char) :
      [sigil, '\x7b'] <+: c :: rest ↔ c = sigil ∧ rest.head? = some '\x7b' := by
    cases rest <;> simp [List.cons_prefix_cons, eq_comm]
  simp only [Common, List.mem_cons, List.infix_cons_iff, opens, IsSigil, not_or]
  grind

/-- More is read behind a character exactly if it can be read on its own. -/
theorem map_cons_eq_ok_iff {c : Char} {result : Except LiteralFault (List Char)}
    {denoted : List Char} :
    result.map (c :: ·) = .ok denoted ↔ ∃ more, result = .ok more ∧ c :: more = denoted := by
  cases result <;> simp [Except.map]

/-- Reading back never makes a text longer. So a text that has lost a sign on the
way cannot be made up for by what follows. -/
theorem length_readBack_le {text denoted : List Char} (read : readBack text = .ok denoted) :
    denoted.length ≤ text.length := by
  induction text using readBack.induct generalizing denoted with
  | case1 =>
    rw [readBack] at read
    cases read
    exact Nat.le_refl 0
  | case2 c rest control => simp [readBack, control] at read
  | case3 c rest control opens => simp [readBack, control, opens] at read
  | case4 c rest control opens doubled inductionHypothesis =>
    rw [readBack, if_neg control, if_neg opens, if_pos doubled, map_cons_eq_ok_iff] at read
    obtain ⟨more, behind, rfl⟩ := read
    have shorter := inductionHypothesis behind
    rw [List.length_tail] at shorter
    simp only [List.length_cons]
    omega
  | case5 c rest control opens single inductionHypothesis =>
    rw [readBack, if_neg control, if_neg opens, if_neg single, map_cons_eq_ok_iff] at read
    obtain ⟨more, behind, rfl⟩ := read
    exact Nat.succ_le_succ (inductionHypothesis behind)

/-- A text is read back as itself exactly if it is common to both languages. A
doubled sign is the only thing that makes it shorter. -/
theorem readBack_eq_self_iff {text : List Char} : readBack text = .ok text ↔ Common text := by
  induction text using readBack.induct with
  | case1 => simp [readBack, Common]
  | case2 c rest control => simp [readBack, common_cons, control]
  | case3 c rest control opens => simp [readBack, common_cons, control, opens]
  | case4 c rest control opens doubled inductionHypothesis =>
    obtain ⟨sigil, first, brace⟩ := doubled
    obtain ⟨behind, rfl⟩ := List.head?_eq_some_iff.mp first
    have uncommon : ¬Common (c :: behind) := fun common =>
      (common_cons.mp common).2.1 ⟨sigil, brace⟩
    rw [readBack, if_neg control, if_neg opens, if_pos ⟨sigil, first, brace⟩, map_cons_eq_ok_iff,
      common_cons]
    -- what is read lacks the second sign, so it is too short to be the text itself
    refine iff_of_false ?_ fun common => uncommon common.2.2
    rintro ⟨more, read, same⟩
    have shorter := length_readBack_le read
    rw [(List.cons.inj same).2, List.tail_cons, List.length_cons] at shorter
    omega
  | case5 c rest control opens single inductionHypothesis =>
    rw [readBack, if_neg control, if_neg opens, if_neg single, map_cons_eq_ok_iff, common_cons,
      ← inductionHypothesis]
    simp [control, opens]

/-- A character is written in JSON as itself, or with a backslash first, so its
first character tells which it is. -/
theorem escapedChar_cases (c : Char) :
    Json.escapedChar c = [c] ∨ ∃ more, Json.escapedChar c = '\\' :: more := by
  unfold Json.escapedChar
  repeat' split
  all_goals simp

/-- A written text starts with a character that is written as itself exactly if the
text does. Signs and braces are such characters, so templates are found where they
are. -/
theorem head?_escaped {d : Char} (itself : Json.escapedChar d = [d]) (text rest : List Char) :
    (text.flatMap Json.escapedChar ++ '"' :: rest).head? = some d ↔ text.head? = some d := by
  have notBackslash : d ≠ '\\' := by
    rintro rfl
    cases itself
  cases text with
  | nil =>
    have notQuote : d ≠ '"' := by
      rintro rfl
      cases itself
    simp [notQuote.symm]
  | cons c text =>
    rcases escapedChar_cases c with plain | ⟨more, escaped⟩
    · simp [plain]
    · have other : c ≠ d := by
        rintro rfl
        rw [itself] at escaped
        exact notBackslash (List.cons.inj escaped).1
      simp [escaped, other, notBackslash.symm]

/-- Behind a character that is written as itself the rest of the text is written. -/
theorem tail_escaped {d : Char} (itself : Json.escapedChar d = [d]) {text : List Char}
    (first : text.head? = some d) (rest : List Char) :
    (text.flatMap Json.escapedChar ++ '"' :: rest).tail =
      text.tail.flatMap Json.escapedChar ++ '"' :: rest := by
  obtain ⟨more, rfl⟩ := List.head?_eq_some_iff.mp first
  simp [itself]

/-- A control that JSON writes by its number is read: the four digits of the number
are hexadecimal in both languages. -/
theorem readEscape?_control {c : Char} (control : c.toNat < 0x20) (rest : List Char) :
    readEscape? ('u' :: '0' :: '0' :: Nat.digitChar (c.toNat / 16) ::
      Nat.digitChar (c.toNat % 16) :: rest) = some (c, rest) := by
  have zero : Json.hexDigit? '0' = some 0 := by decide
  have high : Json.hexDigit? (Nat.digitChar (c.toNat / 16)) = some (c.toNat / 16) :=
    Json.hexDigit?_digitChar (by omega)
  have low : Json.hexDigit? (Nat.digitChar (c.toNat % 16)) = some (c.toNat % 16) :=
    Json.hexDigit?_digitChar (Nat.mod_lt _ (by decide))
  have whole : c.toNat / 16 * 16 + c.toNat % 16 = c.toNat := Nat.div_add_mod' _ _
  have numbered : numberedChar? ['0', '0', Nat.digitChar (c.toNat / 16),
      Nat.digitChar (c.toNat % 16)] = some c := by
    have valid : c.toNat.isValidChar := c.valid
    simp [numberedChar?, zero, high, low, whole, valid]
  simp [readEscape?, readNumbered?, numbered]

/-- What JSON writes for a character is read as that character, unless it is one of
the two controls or a sign before a brace; of two signs before a brace the first one
stands for both. -/
theorem readChar_escaped (c : Char) (text rest : List Char) :
    readChar (Json.escapedChar c ++ (text.flatMap Json.escapedChar ++ '"' :: rest)) =
      if c = '\x08' ∨ c = '\x0c' then .error .unknownEscape
      else if IsSigil c ∧ text.head? = some '\x7b' then .error .template
      else if IsSigil c ∧ text.head? = some c ∧ text.tail.head? = some '\x7b' then
        .ok (some c, text.tail.flatMap Json.escapedChar ++ '"' :: rest)
      else .ok (some c, text.flatMap Json.escapedChar ++ '"' :: rest) := by
  by_cases quote : c = '"'
  · subst c; rfl
  by_cases backslash : c = '\\'
  · subst c; rfl
  by_cases backspace : c = '\x08'
  · subst c; rfl
  by_cases tab : c = '\t'
  · subst c; rfl
  by_cases newline : c = '\n'
  · subst c; rfl
  by_cases feed : c = '\x0c'
  · subst c; rfl
  by_cases carriage : c = '\r'
  · subst c; rfl
  rw [if_neg (by simp [backspace, feed])]
  by_cases control : c.toNat < 0x20
  · have escaped : Json.escapedChar c = ['\\', 'u', '0', '0', Nat.digitChar (c.toNat / 16),
        Nat.digitChar (c.toNat % 16)] := by
      simp [Json.escapedChar, quote, backslash, backspace, tab, newline, feed, carriage, control]
    have plain : ¬IsSigil c := by
      rintro (rfl | rfl) <;> exact absurd control (by decide)
    simp [escaped, readChar, readEscape?_control control, plain]
  · have itself : Json.escapedChar c = [c] := by
      simp [Json.escapedChar, quote, backslash, backspace, tab, newline, feed, carriage, control]
    have brace : Json.escapedChar '\x7b' = ['\x7b'] := by decide
    rw [itself, List.singleton_append, readChar, if_neg quote, if_neg newline, if_neg backslash]
    simp only [head?_escaped brace, head?_escaped itself]
    by_cases first : text.head? = some c
    · simp only [tail_escaped itself first, head?_escaped brace]
    · simp [first]

/-- Behind an opening quote, what JSON writes for a text is read up to its closing
quote. The recursion is that of reading back, which skips the second one of two
signs. -/
theorem readQuotedWithin_escaped {bound : Nat} {text : List Char} (enough : text.length < bound)
    (rest : List Char) :
    readQuotedWithin bound (text.flatMap Json.escapedChar ++ '"' :: rest) =
      (readBack text).map (·, rest) := by
  have positive : 0 < bound := Nat.zero_lt_of_lt enough
  induction text using readBack.induct generalizing bound with
  | case1 =>
    rw [readBack]
    exact readQuotedWithin_of_none positive rfl
  | case2 c text control =>
    have read := readChar_escaped c text rest
    rw [if_pos control] at read
    rw [List.flatMap_cons, List.append_assoc, readQuotedWithin_of_error positive read, readBack,
      if_pos control]
    rfl
  | case3 c text control opens =>
    have read := readChar_escaped c text rest
    rw [if_neg control, if_pos opens] at read
    rw [List.flatMap_cons, List.append_assoc, readQuotedWithin_of_error positive read, readBack,
      if_neg control, if_pos opens]
    rfl
  | case4 c text control opens doubled inductionHypothesis =>
    have read := readChar_escaped c text rest
    rw [if_neg control, if_neg opens, if_pos doubled] at read
    obtain ⟨bound, rfl⟩ := Nat.exists_eq_succ_of_ne_zero (Nat.ne_of_gt positive)
    have shorter : text.tail.length < bound := by
      rw [List.length_tail]
      rw [List.length_cons] at enough
      omega
    rw [List.flatMap_cons, List.append_assoc, readQuotedWithin_of_some read,
      inductionHypothesis shorter (Nat.zero_lt_of_lt shorter), readBack, if_neg control,
      if_neg opens, if_pos doubled]
    cases readBack text.tail <;> rfl
  | case5 c text control opens single inductionHypothesis =>
    have read := readChar_escaped c text rest
    rw [if_neg control, if_neg opens, if_neg single] at read
    obtain ⟨bound, rfl⟩ := Nat.exists_eq_succ_of_ne_zero (Nat.ne_of_gt positive)
    have shorter : text.length < bound := Nat.lt_of_succ_lt_succ enough
    rw [List.flatMap_cons, List.append_assoc, readQuotedWithin_of_some read,
      inductionHypothesis shorter (Nat.zero_lt_of_lt shorter), readBack, if_neg control,
      if_neg opens, if_neg single]
    cases readBack text <;> rfl

/-- The escapes of literals are among those of quoted texts, as none of their
letters starts a number. -/
theorem readEscape?_letter {letter c : Char} (meant : literalEscape? letter = some c)
    (rest : List Char) : readEscape? (letter :: rest) = some (c, rest) := by
  have short : letter ≠ 'u' := by
    rintro rfl
    cases meant
  have long : letter ≠ 'U' := by
    rintro rfl
    cases meant
  rw [readEscape?, if_neg short, if_neg long, meant, Option.map_some]

/-- What a literal writes for a character is read as that character. A sign that
would open a template is written twice and read once. -/
theorem readChar_literalChar (c : Char) (text rest : List Char) :
    readChar (literalChar c text ++ (literalBody text ++ '"' :: rest)) =
      .ok (some c, literalBody text ++ '"' :: rest) := by
  have first : (literalBody text ++ '"' :: rest).head? = some '\x7b' ↔
      text.head? = some '\x7b' := head?_literalBody rest
  rcases literalChar_cases c text with
    ⟨letter, meant, written⟩ | ⟨sigil, brace, written⟩ | ⟨quote, backslash, newline, alone, written⟩
  · simp [written, readChar, readEscape?_letter meant]
  · obtain ⟨quote, backslash, newline, other⟩ := sigil.plain
    simp [written, readChar, quote, newline, backslash, other, sigil, first.mpr brace]
  · have noTemplate : ¬(IsSigil c ∧ (literalBody text ++ '"' :: rest).head? = some '\x7b') :=
      fun template => alone ⟨template.1, first.mp template.2⟩
    have single : ¬(IsSigil c ∧ (literalBody text ++ '"' :: rest).head? = some c ∧
        (literalBody text ++ '"' :: rest).tail.head? = some '\x7b') := by
      rintro ⟨sigil, same, brace⟩
      obtain ⟨behind, shape⟩ := List.head?_eq_some_iff.mp same
      rw [shape, List.tail_cons] at brace
      obtain ⟨more, rfl⟩ := List.head?_eq_some_iff.mp brace
      exact literalBody_ne_sigil sigil text rest more shape
    rw [written, List.singleton_append, readChar, if_neg quote, if_neg newline, if_neg backslash,
      if_neg noTemplate, if_neg single]

/-- Behind an opening quote, what a literal writes for a text is read as that text,
without any condition on the text. -/
theorem readQuotedWithin_literalBody {bound : Nat} {text : List Char} (enough : text.length < bound)
    (rest : List Char) :
    readQuotedWithin bound (literalBody text ++ '"' :: rest) = .ok (text, rest) := by
  induction text generalizing bound with
  | nil => exact readQuotedWithin_of_none enough rfl
  | cons c text inductionHypothesis =>
    obtain ⟨bound, rfl⟩ := Nat.exists_eq_succ_of_ne_zero (Nat.ne_of_gt (Nat.zero_lt_of_lt enough))
    rw [literalBody, List.append_assoc, readQuotedWithin_of_some (readChar_literalChar c text rest),
      inductionHypothesis (Nat.lt_of_succ_lt_succ enough)]
    rfl

/-- Every character of a text is written with one character at least. So the length
of what is written bounds the number of characters to be read. -/
theorem length_le_literalBody (text : List Char) : text.length ≤ (literalBody text).length := by
  induction text with
  | nil => exact Nat.le_refl 0
  | cons c text inductionHypothesis =>
    have nonempty : 1 ≤ (literalChar c text).length := by
      unfold literalChar
      repeat' split
      all_goals simp
    rw [literalBody, List.length_append, List.length_cons]
    omega

/-- A way to quote texts, and what each of them is read as, whatever stands behind
it. Lists of texts are read for any such way, so JSON and literals are treated
alike. -/
def QuotesAs (quote : String → List Char) (meant : String → Except LiteralFault String) : Prop :=
  ∀ text rest, ∃ body, quote text ++ rest = '"' :: body ∧
    readQuoted body = (meant text).map (·, rest)

/-- A string of JSON is read as its text is read back, or refused where that is. -/
theorem quotesAs_json :
    QuotesAs Json.quotedChars fun text => (readBack text.toList).map String.ofList := by
  intro text rest
  refine ⟨text.toList.flatMap Json.escapedChar ++ '"' :: rest, by simp [Json.quotedChars], ?_⟩
  have enough : text.toList.length <
      (text.toList.flatMap Json.escapedChar ++ '"' :: rest).length := by
    have longer := Json.length_le_flatMap_escapedChar text.toList
    rw [List.length_append, List.length_cons]
    omega
  rw [readQuoted, readQuotedWithin_escaped enough]
  cases back : readBack text.toList <;> simp [back, Except.map]

/-- A literal is read as its text: of the two ways to quote, this one never fails.
-/
theorem quotesAs_literal : QuotesAs (fun text => (literal text).toList) .ok := by
  intro text rest
  refine ⟨literalBody text.toList ++ '"' :: rest, by simp [literal], ?_⟩
  have enough : text.toList.length < (literalBody text.toList ++ '"' :: rest).length := by
    have longer := length_le_literalBody text.toList
    rw [List.length_append, List.length_cons]
    omega
  rw [readQuoted, readQuotedWithin_literalBody enough]
  simp [Except.map]

end CloudDiagram.Terraform
