import CloudDiagram.Json.Token
import CloudDiagram.Json.Writer

/-!
# Strings are read back

A string is written one character at a time and read the same way: each escape stands
for the one character that it was written for, and what follows the closing quote is
left alone. So a written string determines both the text and what stands behind it.
-/

namespace CloudDiagram.Json

/-- A written hexadecimal digit is read with its value. There are sixteen of them to
be tried. -/
theorem hexDigit?_digitChar {value : Nat} (small : value < 16) :
    hexDigit? (Nat.digitChar value) = some value := by
  have table : ∀ value : Fin 16, hexDigit? (Nat.digitChar value) = some value.val := by decide
  exact table ⟨value, small⟩

/-- A unit of two written digits behind two zeros is read with its value. Controls
are written so. -/
theorem scanHex_digits {value : Nat} (small : value < 256) (rest : List Char) :
    scanHex ('0' :: '0' :: Nat.digitChar (value / 16) :: Nat.digitChar (value % 16) :: rest) =
      .ok (value, rest) := by
  have zero : hexDigit? '0' = some 0 := by decide
  have high : hexDigit? (Nat.digitChar (value / 16)) = some (value / 16) :=
    hexDigit?_digitChar (by omega)
  have low : hexDigit? (Nat.digitChar (value % 16)) = some (value % 16) :=
    hexDigit?_digitChar (Nat.mod_lt _ (by decide))
  have whole : ((0 * 16 + 0) * 16 + value / 16) * 16 + value % 16 = value := by omega
  simp only [scanHex, zero, high, low, whole]

/-- A control character that is written by number is read. Its number is below that
of any surrogate, so it is a character by itself. -/
theorem stringTail_control (bound : Nat) {c : Char} (control : c.toNat < 0x20)
    (rest : List Char) :
    stringTail (bound + 1) ('\\' :: 'u' :: '0' :: '0' :: Nat.digitChar (c.toNat / 16) ::
        Nat.digitChar (c.toNat % 16) :: rest) =
      stringTail bound rest >>= fun (more, rest) => pure (c :: more, rest) := by
  have unit : scanEscape ('u' :: '0' :: '0' :: Nat.digitChar (c.toNat / 16) ::
      Nat.digitChar (c.toNat % 16) :: rest) = .ok (.unit c.toNat, rest) := by
    rw [scanEscape, if_pos rfl, scanHex_digits (by omega)]
    rfl
  have low : isLowSurrogate c.toNat = false := by simp [isLowSurrogate]; omega
  have high : isHighSurrogate c.toNat = false := by simp [isHighSurrogate]; omega
  have resolved : resolveEscape (.unit c.toNat) rest = .ok (c, rest) := by
    simp [resolveEscape, low, high]
  rw [stringTail, if_neg (by decide), if_pos rfl, unit]
  change (resolveEscape (.unit c.toNat) rest >>= _) = _
  rw [resolved]
  rfl

/-- A character that is written inside a string is read, and the string goes on. The
cases are those of the writer: a letter of its own, a number, or the character
itself. -/
theorem stringTail_escapedChar (bound : Nat) (c : Char) (rest : List Char) :
    stringTail (bound + 1) (escapedChar c ++ rest) =
      stringTail bound rest >>= fun (more, rest) => pure (c :: more, rest) := by
  by_cases quote : c = '"'
  · subst c; rfl
  by_cases backslash : c = '\\'
  · subst c; rfl
  by_cases backspace : c = '\x08'
  · subst c; rfl
  by_cases tab : c = '\t'
  · subst c; rfl
  by_cases newline : c = '\n'
  · subst c; rfl
  by_cases feed : c = '\x0c'
  · subst c; rfl
  by_cases carriage : c = '\r'
  · subst c; rfl
  rw [escapedChar, if_neg quote, if_neg backslash, if_neg backspace, if_neg tab, if_neg newline,
    if_neg feed, if_neg carriage]
  by_cases control : c.toNat < 0x20
  · rw [if_pos control]
    exact stringTail_control bound control rest
  · rw [if_neg control, List.singleton_append, stringTail, if_neg quote, if_neg backslash,
      if_neg control]

/-- A written text is read from behind its opening quote, with what stands behind
it. Each step reads one character, however many it was written with. -/
theorem stringTail_quoted {bound : Nat} {text : List Char} (enough : text.length < bound)
    (rest : List Char) :
    stringTail bound (text.flatMap escapedChar ++ '"' :: rest) = .ok (text, rest) := by
  induction text generalizing bound with
  | nil =>
    obtain ⟨bound, rfl⟩ := Nat.exists_eq_succ_of_ne_zero (Nat.ne_of_gt enough)
    rfl
  | cons c text inductionHypothesis =>
    have positive : 0 < bound := Nat.zero_lt_of_lt enough
    obtain ⟨bound, rfl⟩ := Nat.exists_eq_succ_of_ne_zero (Nat.ne_of_gt positive)
    rw [List.flatMap_cons, List.append_assoc, stringTail_escapedChar,
      inductionHypothesis (Nat.lt_of_succ_lt_succ enough)]
    rfl

/-- Every character of a text is written with one character at least, so the length
of what is written bounds the number of steps. -/
theorem length_le_flatMap_escapedChar (text : List Char) :
    text.length ≤ (text.flatMap escapedChar).length := by
  induction text with
  | nil => exact Nat.le_refl 0
  | cons c text inductionHypothesis =>
    have nonempty : 1 ≤ (escapedChar c).length := by
      unfold escapedChar
      repeat' split
      all_goals simp
    rw [List.flatMap_cons, List.length_append, List.length_cons]
    omega

/-- A written string is read as its text, with what stands behind it. This holds for
every text, whatever characters it has. -/
theorem scanString_quoted (text : String) (rest : List Char) :
    scanString (text.toList.flatMap escapedChar ++ '"' :: rest) = .ok (text, rest) := by
  have enough : text.toList.length <
      (text.toList.flatMap escapedChar ++ '"' :: rest).length + 1 := by
    have longer := length_le_flatMap_escapedChar text.toList
    rw [List.length_append]
    omega
  rw [scanString, stringTail_quoted enough]
  simp [Except.map]

/-- A written string can be told from what stands behind it, since both are read
from the two together. -/
theorem quotedChars_append_inj {text other : String} {rest others : List Char}
    (same : quotedChars text ++ rest = quotedChars other ++ others) :
    text = other ∧ rest = others := by
  have behind : text.toList.flatMap escapedChar ++ '"' :: rest =
      other.toList.flatMap escapedChar ++ '"' :: others := by
    simpa [quotedChars] using same
  have read := congrArg scanString behind
  rw [scanString_quoted, scanString_quoted] at read
  exact Prod.mk.inj (Except.ok.inj read)

/-- The items of an array of texts: the first one, and the others behind commas. -/
theorem itemsChars_texts (text : String) (texts : List String) :
    Value.itemsChars ((text :: texts).map .string) =
      quotedChars text ++ texts.flatMap (fun text => ',' :: quotedChars text) := by
  induction texts generalizing text with
  | nil => simp [Value.itemsChars, Value.chars]
  | cons next texts inductionHypothesis =>
    have others := inductionHypothesis next
    simp only [List.map_cons] at others
    simp [Value.itemsChars, Value.chars, others]

/-- Texts behind commas can be told from each other. A quoted text ends at its
closing quote, so a comma inside it is no mark. -/
theorem flatMap_comma_inj {texts others : List String}
    (same : texts.flatMap (fun text => ',' :: quotedChars text) =
      others.flatMap (fun text => ',' :: quotedChars text)) : texts = others := by
  induction texts generalizing others with
  | nil =>
    cases others with
    | nil => rfl
    | cons other others => simp at same
  | cons text texts inductionHypothesis =>
    cases others with
    | nil => simp at same
    | cons other others =>
      rw [List.flatMap_cons, List.flatMap_cons, List.cons_append, List.cons_append] at same
      obtain ⟨rfl, tails⟩ := quotedChars_append_inj (List.cons.inj same).2
      exact congrArg (text :: ·) (inductionHypothesis tails)

/-- A list of texts can be told from the items of its array. An empty array has no
items, and a text has at least its quotes. -/
theorem itemsChars_inj {texts others : List String}
    (same : Value.itemsChars (texts.map .string) = Value.itemsChars (others.map .string)) :
    texts = others := by
  cases texts with
  | nil =>
    cases others with
    | nil => rfl
    | cons other others =>
      rw [itemsChars_texts] at same
      simp [Value.itemsChars, quotedChars] at same
  | cons text texts =>
    cases others with
    | nil =>
      rw [itemsChars_texts] at same
      simp [Value.itemsChars, quotedChars] at same
    | cons other others =>
      rw [itemsChars_texts, itemsChars_texts] at same
      obtain ⟨rfl, tails⟩ := quotedChars_append_inj same
      exact congrArg (text :: ·) (flatMap_comma_inj tails)

end CloudDiagram.Json
