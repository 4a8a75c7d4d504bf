import CloudDiagram.Json.Record
import Mathlib.Data.List.Infix

/-!
# Scanning goes forward

Whatever is scanned in a text, what is left of the text is a suffix of it. This holds behind
what was read, and it holds of the unread text of a fault. So a fault is never found in front of
what had been read before it.
-/

namespace CloudDiagram.Json

variable {α β : Type}

/-- At a text an outcome goes forward: the text that it leaves, or that its fault
has not read, is a suffix of the text. -/
def Forward (left : α → List Char) (text : List Char) : Except Fault α → Prop
  | .ok value => left value <:+ text
  | .error fault => fault.unread <:+ text

namespace Forward

variable {left : α → List Char} {left' : β → List Char} {text longer : List Char}

@[simp]
theorem ok_iff {value : α} : Forward left text (.ok value) ↔ left value <:+ text := Iff.rfl

@[simp]
theorem pure_iff {value : α} : Forward left text (pure value) ↔ left value <:+ text := Iff.rfl

@[simp]
theorem error_iff {fault : Fault} :
    Forward left text (.error fault) ↔ fault.unread <:+ text := Iff.rfl

@[simp]
theorem throw_iff {fault : Fault} :
    Forward left text (throw fault) ↔ fault.unread <:+ text := Iff.rfl

/-- What goes forward at a text does so at all that the text is a suffix of. So a
scan may first pass some characters. -/
theorem trans {outcome : Except Fault α} (forward : Forward left text outcome)
    (shorter : text <:+ longer) : Forward left longer outcome := by
  cases outcome with
  | ok value => exact List.IsSuffix.trans forward shorter
  | error fault => exact List.IsSuffix.trans forward shorter

/-- What goes forward behind a character does so in front of it. -/
theorem cons {outcome : Except Fault α} (forward : Forward left text outcome) (c : Char) :
    Forward left (c :: text) outcome := forward.trans (List.suffix_cons c text)

/-- Two scans, one where the other has left the text, go forward together. If the
first one fails the second is not made. -/
theorem bind {first : Except Fault α} {next : α → Except Fault β}
    (forward : Forward left text first)
    (others : ∀ value, first = .ok value → Forward left' (left value) (next value)) :
    Forward left' text (first >>= next) := by
  cases first with
  | ok value => exact (others value rfl).trans forward
  | error fault => exact forward

/-- What is made of a result goes forward if it leaves no more than the result did.
A fault is handed on as it is. -/
theorem map {first : Except Fault α} {change : α → β} (forward : Forward left text first)
    (shorter : ∀ value, left' (change value) <:+ left value) :
    Forward left' text (first.map change) := by
  cases first with
  | ok value => exact (shorter value).trans forward
  | error fault => exact forward

end Forward

namespace Fault

@[simp]
theorem unread_before (cause : Cause) (unread : List Char) :
    (before cause unread).unread = unread := rfl

@[simp]
theorem unread_onNext (cause : Cause) (unread : List Char) :
    (onNext cause unread).unread = unread := rfl

end Fault

/-- What stands behind the space of a text is a suffix of it. -/
theorem suffix_of_skipSpace {text found : List Char} (next : skipSpace text = found) :
    found <:+ text :=
  next ▸ List.dropWhile_suffix _

/-- What stands behind the first character after the space is a suffix too. -/
theorem suffix_of_skipSpace_cons {text rest : List Char} {c : Char}
    (next : skipSpace text = c :: rest) : rest <:+ text :=
  (List.suffix_cons c rest).trans (suffix_of_skipSpace next)

/-- The rest of a word goes forward, also where the word turns out to be another
one. -/
theorem forward_wordTail (letters text : List Char) : Forward id text (wordTail letters text) := by
  fun_induction wordTail letters text with
  | case1 => exact List.suffix_rfl
  | case2 => exact List.suffix_rfl
  | case3 letters c rest inductionHypothesis => exact inductionHypothesis.cons c
  | case4 => exact List.suffix_rfl

namespace Numeral

/-- The digits before the point go forward; a fault is found in front of the first
character that is no digit, or behind it. -/
theorem forward_scanWhole (atEnd : Cause) (text : List Char) :
    Forward Prod.snd text (scanWhole atEnd text) := by
  fun_cases scanWhole atEnd text
  case case5 => exact (List.dropWhile_suffix _).trans (List.suffix_cons ..)
  all_goals simp

/-- The digits after the point go forward. -/
theorem forward_scanFraction (atEnd : Cause) (text : List Char) :
    Forward Prod.snd text (scanFraction atEnd text) := by
  fun_cases scanFraction atEnd text with
  | case1 rest => by_cases ended : rest = [] <;> simp [ended]
  | case2 rest => exact (List.dropWhile_suffix _).trans (List.suffix_cons ..)
  | case3 => exact List.suffix_rfl

/-- A sign is passed or nothing is. -/
theorem scanSign_suffix (text : List Char) : (scanSign text).2 <:+ text := by
  fun_cases scanSign text <;> simp

/-- The digits of an exponent, if there is one. -/
def exponentDigits (exponent : Option (Bool × List Char)) : List Char := exponent.elim [] Prod.snd

/-- An exponent goes forward, and its digits are the last that was passed. Where it
is too large its fault is found among these digits, so they are kept in sight. -/
theorem forward_scanExponent (atEnd : Cause) (text : List Char) :
    Forward (fun (exponent, rest) => exponentDigits exponent ++ rest) text
      (scanExponent atEnd text) := by
  fun_cases scanExponent atEnd text with
  | case1 => exact List.suffix_rfl
  | case2 mark afterMark _ negative rest sign =>
    have behind : rest <:+ afterMark := by simpa [sign] using scanSign_suffix afterMark
    have shorter := behind.trans (List.suffix_cons mark afterMark)
    by_cases ended : rest = []
    · simp [ended]
    · simpa [ended] using shorter
  | case3 mark afterMark _ negative rest sign =>
    have behind : rest <:+ afterMark := by simpa [sign] using scanSign_suffix afterMark
    simpa [exponentDigits] using behind.trans (List.suffix_cons mark afterMark)
  | case4 => exact List.suffix_rfl

/-- A numeral goes forward, and the digits of its exponent are the last that was
passed. -/
theorem forward_scan (atEnd : Cause) (text : List Char) :
    Forward (fun (numeral, rest) => exponentDigits numeral.exponent ++ rest) text
      (scan atEnd text) := by
  unfold scan
  split
  rename_i negative unsigned signed
  have behindSign : unsigned <:+ text := by
    split at signed
    · obtain ⟨-, rfl⟩ := Prod.mk.inj signed
      exact List.suffix_cons ..
    · obtain ⟨-, rfl⟩ := Prod.mk.inj signed
      exact List.suffix_rfl
  refine Forward.trans ?_ behindSign
  refine (forward_scanWhole atEnd unsigned).bind ?_
  rintro ⟨whole, text⟩ -
  refine (forward_scanFraction atEnd text).bind ?_
  rintro ⟨fraction, text⟩ -
  refine (forward_scanExponent atEnd text).bind ?_
  rintro ⟨exponent, text⟩ -
  exact List.suffix_rfl

/-- A number leaves what stands behind its numeral. A fault may leave digits of the
exponent too, as it is found where the exponent becomes too large. -/
theorem forward_number (numeral : Numeral) (after : List Char) :
    Forward (fun _ => after) (exponentDigits numeral.exponent ++ after)
      (numeral.number after) := by
  have behind : after <:+ exponentDigits numeral.exponent ++ after := List.suffix_append ..
  fun_cases number numeral after
  case case2 | case6 => exact behind
  case case7 negative digits exponent _ _ _ =>
    rw [exponent, Forward.error_iff]
    exact (List.suffix_append_self_iff).mpr (List.drop_suffix ..)
  -- The double is found, or it is too large behind the whole numeral.
  all_goals
    dsimp +zetaDelta only
    split
    · exact behind
    · exact behind

end Numeral

/-- A number goes forward, whether it is read as an integer, as a double, or not at
all. -/
theorem forward_scanNumber (text : List Char) : Forward Prod.snd text (scanNumber text) := by
  refine (Numeral.forward_scan .unfinishedValue text).bind ?_
  rintro ⟨numeral, rest⟩ -
  refine (numeral.forward_number rest).bind ?_
  intro number _
  exact List.suffix_rfl

/-- Four hexadecimal digits go forward. If the text ends before the fourth, nothing
of it is left unread. -/
theorem forward_scanHex (text : List Char) : Forward Prod.snd text (scanHex text) := by
  have refused : Forward Prod.snd text
      (if Text.byteCount (text.take 4) < 4 then .error (.before .unfinishedString [])
        else .error ⟨.badEscape, text, 4⟩ : Except Fault (Nat × List Char)) := by
    split
    · exact List.nil_suffix
    · exact List.suffix_rfl
  fun_cases scanHex text with
  | case1 a b c d rest => exact List.suffix_append [a, b, c, d] rest
  | case2 => exact refused
  | case3 => exact refused

/-- An escape goes forward. -/
theorem forward_scanEscape (text : List Char) : Forward Prod.snd text (scanEscape text) := by
  fun_cases scanEscape text with
  | case1 => exact List.suffix_rfl
  | case2 rest =>
    refine ((forward_scanHex rest).map ?_).cons 'u'
    exact fun _ => List.suffix_rfl
  | case3 letter rest => exact List.suffix_cons letter rest
  | case4 => exact List.suffix_rfl

/-- The unit that closes a surrogate pair goes forward; without one the fault is
found where it should start. -/
theorem forward_scanLowSurrogate (text : List Char) :
    Forward Prod.snd text (scanLowSurrogate text) := by
  fun_cases scanLowSurrogate text with
  | case1 => exact List.suffix_rfl
  | case2 => exact List.nil_suffix
  | case3 rest =>
    refine (((forward_scanHex rest).bind ?_).cons 'u').cons '\\'
    rintro ⟨code, rest⟩ -
    by_cases low : isLowSurrogate code = true <;> simp [low]
  | case4 mark rest => exact List.suffix_cons _ _
  | case5 => exact List.suffix_rfl

/-- The character of an escape goes forward. -/
theorem forward_resolveEscape (escape : Escape) (text : List Char) :
    Forward Prod.snd text (resolveEscape escape text) := by
  fun_cases resolveEscape escape text
  case case3 =>
    refine (forward_scanLowSurrogate text).bind ?_
    rintro ⟨low, rest⟩ -
    exact List.suffix_rfl
  all_goals exact List.suffix_rfl

/-- The rest of a string goes forward, character by character and escape by escape.
-/
theorem forward_stringTail (bound : Nat) (text : List Char) :
    Forward Prod.snd text (stringTail bound text) := by
  fun_induction stringTail bound text with
  | case1 => exact List.nil_suffix
  | case2 => exact List.nil_suffix
  | case3 bound rest => exact List.suffix_cons _ _
  | case4 bound rest _ inductionHypothesis =>
    refine ((forward_scanEscape rest).bind ?_).cons '\\'
    rintro ⟨escape, rest⟩ -
    refine (forward_resolveEscape escape rest).bind ?_
    rintro ⟨c, rest⟩ -
    refine (inductionHypothesis rest).bind ?_
    rintro ⟨more, rest⟩ -
    exact List.suffix_rfl
  | case5 => exact List.suffix_rfl
  | case6 bound c rest _ _ _ inductionHypothesis =>
    refine (inductionHypothesis.bind ?_).cons c
    rintro ⟨more, rest⟩ -
    exact List.suffix_rfl

/-- A string goes forward. -/
theorem forward_scanString (text : List Char) : Forward Prod.snd text (scanString text) :=
  (forward_stringTail _ text).map fun _ => List.suffix_rfl

/-- A value without parts goes forward. Which of the kinds it is shows in its first
character. -/
theorem forward_scanScalar (text : List Char) : Forward Prod.snd text (scanScalar text) := by
  have word {letters : List Char} {first : Char} {value : Value} (rest : List Char) :
      Forward Prod.snd (first :: rest) ((wordTail letters rest).map (value, ·)) := by
    refine ((forward_wordTail letters rest).map ?_).cons first
    exact fun _ => List.suffix_rfl
  fun_cases scanScalar text with
  | case1 => exact List.suffix_rfl
  | case2 rest => exact word rest
  | case3 rest => exact word rest
  | case4 rest => exact word rest
  | case5 rest =>
    refine ((forward_scanString rest).map ?_).cons '"'
    exact fun _ => List.suffix_rfl
  | case6 c rest => exact (forward_scanNumber (c :: rest)).map fun _ => List.suffix_rfl
  | case7 => exact List.suffix_rfl

/-- A scalar of the wanted type goes forward. One of another type is passed too
before it is refused, and of an array or object only its bracket is looked at. -/
theorem forward_scanWanted (wanted : Wanted) (pick : Value → Option α) (text : List Char) :
    Forward Prod.snd text (scanWanted wanted pick text) := by
  fun_cases scanWanted wanted pick text with
  | case1 => exact List.nil_suffix
  | case2 rest next => exact suffix_of_skipSpace next
  | case3 rest next => exact suffix_of_skipSpace next
  | case4 =>
    refine ((forward_scanScalar _).bind ?_).trans (suffix_of_skipSpace rfl)
    rintro ⟨value, rest⟩ -
    cases picked : pick value <;> simp [picked]

/-- Passing the rest of a string goes forward. Escapes are checked here only as far
as their letter and their digits. -/
theorem forward_skipStringTail (bound : Nat) (text : List Char) :
    Forward id text (skipStringTail bound text) := by
  fun_induction skipStringTail bound text with
  | case1 => exact List.nil_suffix
  | case2 => exact List.nil_suffix
  | case3 bound rest => exact List.suffix_cons _ _
  | case4 bound rest _ inductionHypothesis =>
    refine ((forward_scanEscape rest).bind ?_).cons '\\'
    rintro ⟨escape, rest⟩ -
    exact inductionHypothesis rest
  | case5 => exact List.suffix_rfl
  | case6 bound c rest _ _ _ inductionHypothesis => exact inductionHypothesis.cons c

/-- Passing a string goes forward. -/
theorem forward_skipString (text : List Char) : Forward id text (skipString text) :=
  forward_skipStringTail _ text

/-- Passing a value without parts goes forward, without working out what it is. -/
theorem forward_skipScalar (text : List Char) : Forward id text (skipScalar text) := by
  fun_cases skipScalar text with
  | case1 => exact List.suffix_rfl
  | case2 rest => exact (forward_wordTail _ rest).cons _
  | case3 rest => exact (forward_wordTail _ rest).cons _
  | case4 rest => exact (forward_wordTail _ rest).cons _
  | case5 rest => exact (forward_skipString rest).cons _
  | case6 c rest =>
    exact (Numeral.forward_scan .badNumber (c :: rest)).map fun _ => List.suffix_append ..
  | case7 => exact List.suffix_rfl

/-- Passing a key goes forward. -/
theorem forward_skipKey (text : List Char) : Forward id text (skipKey text) := by
  fun_cases skipKey text with
  | case1 => exact List.nil_suffix
  | case2 rest next =>
    refine ((forward_skipString rest).bind ?_).trans (suffix_of_skipSpace_cons next)
    intro rest _
    split
    · exact List.nil_suffix
    · rename_i behind
      exact suffix_of_skipSpace_cons behind
    · exact suffix_of_skipSpace rfl
  | case3 => exact suffix_of_skipSpace rfl

/-- Passing the key inside a bracket, if there is one, goes forward. -/
theorem forward_skipKeyIn (bracket : OpenBracket) (text : List Char) :
    Forward id text (skipKeyIn bracket text) := by
  cases bracket with
  | list => exact List.suffix_rfl
  | object => exact forward_skipKey text

/-- Closing brackets goes forward. After the last one nothing more is passed. -/
theorem forward_skipClosings (brackets : List OpenBracket) (text : List Char) :
    Forward Prod.snd text (skipClosings brackets text) := by
  fun_induction skipClosings brackets text with
  | case1 => exact List.suffix_rfl
  | case2 => exact List.nil_suffix
  | case3 bracket outer text rest next =>
    refine ((forward_skipKeyIn bracket rest).map ?_).trans (suffix_of_skipSpace_cons next)
    exact fun _ => List.suffix_rfl
  | case4 bracket outer text rest next _ inductionHypothesis =>
    exact inductionHypothesis.trans (suffix_of_skipSpace_cons next)
  | case5 bracket outer text c rest next => exact suffix_of_skipSpace next

/-- Entering a bracket goes forward. -/
theorem forward_skipOpening (bracket : OpenBracket) (outer : List OpenBracket) (text : List Char) :
    Forward Prod.snd text (skipOpening bracket outer text) := by
  fun_cases skipOpening bracket outer text with
  | case1 => exact List.nil_suffix
  | case2 rest next =>
    exact (forward_skipClosings outer rest).trans (suffix_of_skipSpace_cons next)
  | case3 c rest next =>
    refine ((forward_skipKeyIn bracket _).map ?_).trans (suffix_of_skipSpace next)
    exact fun _ => List.suffix_rfl

/-- Passing a value or an opening bracket goes forward. Brackets that are open are
kept in a list, so no recursion into the value is needed. -/
theorem forward_skipStep (outer : List OpenBracket) (text : List Char) :
    Forward Prod.snd text (skipStep outer text) := by
  fun_cases skipStep outer text with
  | case1 rest next => exact (forward_skipOpening ..).trans (suffix_of_skipSpace_cons next)
  | case2 rest next => exact (forward_skipOpening ..).trans (suffix_of_skipSpace_cons next)
  | case3 =>
    refine ((forward_skipScalar _).bind ?_).trans (suffix_of_skipSpace rfl)
    intro rest _
    exact forward_skipClosings outer rest

/-- Passing values until no bracket is open goes forward, by induction on the bound.
-/
theorem forward_skipWithin (bound : Nat) (outer : List OpenBracket) (text : List Char) :
    Forward id text (skipWithin bound outer text) := by
  induction bound generalizing outer text with
  | zero => exact List.nil_suffix
  | succ bound inductionHypothesis =>
    refine (forward_skipStep outer text).bind ?_
    rintro ⟨outer, rest⟩ -
    dsimp only
    split
    · exact List.suffix_rfl
    · exact inductionHypothesis outer rest

/-- Passing a value goes forward. -/
theorem forward_skipValue (text : List Char) : Forward id text (skipValue text) :=
  forward_skipWithin _ [] text

/-- The text that what follows is given with, be it another part or the closing
bracket. -/
def Step.text : Step → List Char
  | more text => text
  | done rest => rest

/-- What follows inside an array is found forward: an item, or the bracket that
closes it. -/
theorem forward_nextItem (first : Bool) (text : List Char) :
    Forward Step.text text (nextItem first text) := by
  fun_cases nextItem first text with
  | case1 => exact List.nil_suffix
  | case2 rest next => exact suffix_of_skipSpace_cons next
  | case3 c rest next => exact suffix_of_skipSpace next
  | case4 => exact List.nil_suffix
  | case5 rest _ closing next' next =>
    exact (suffix_of_skipSpace next').trans (suffix_of_skipSpace_cons next)
  | case6 rest _ next =>
    exact (suffix_of_skipSpace rfl).trans (suffix_of_skipSpace_cons next)
  | case7 c rest next => exact suffix_of_skipSpace next

/-- What follows inside an object is found forward: a key, or the brace that closes
it. -/
theorem forward_nextKey (first : Bool) (text : List Char) :
    Forward Step.text text (nextKey first text) := by
  fun_cases nextKey first text with
  | case1 => exact List.nil_suffix
  | case2 rest next => exact suffix_of_skipSpace_cons next
  | case3 rest _ next => exact suffix_of_skipSpace_cons next
  | case4 c rest next => exact suffix_of_skipSpace next
  | case5 => exact List.nil_suffix
  | case6 rest _ key next' next =>
    exact (suffix_of_skipSpace_cons next').trans (suffix_of_skipSpace_cons next)
  | case7 rest _ closing next' next =>
    exact (suffix_of_skipSpace next').trans (suffix_of_skipSpace_cons next)
  | case8 rest _ next => exact (suffix_of_skipSpace rfl).trans (suffix_of_skipSpace_cons next)
  | case9 c rest next => exact suffix_of_skipSpace next

/-- The colon after a key is passed forward. -/
theorem forward_scanColon (text : List Char) : Forward id text (scanColon text) := by
  fun_cases scanColon text with
  | case1 => exact List.nil_suffix
  | case2 rest next => exact suffix_of_skipSpace_cons next
  | case3 => exact suffix_of_skipSpace rfl

/-- The end of an array of fields is passed forward. -/
theorem forward_scanEnd (text : List Char) : Forward id text (Shape.scanEnd text) := by
  fun_cases Shape.scanEnd text with
  | case1 => exact List.nil_suffix
  | case2 rest next => exact suffix_of_skipSpace_cons next
  | case3 rest next closing next' =>
    exact (suffix_of_skipSpace next').trans (suffix_of_skipSpace_cons next)
  | case4 rest next => exact (suffix_of_skipSpace rfl).trans (suffix_of_skipSpace_cons next)
  | case5 => exact suffix_of_skipSpace rfl

/-- A repeated key is reported behind it. -/
theorem afterRepeated_suffix (text : List Char) : Shape.afterRepeated text <:+ text := by
  fun_cases Shape.afterRepeated text with
  | case1 rest next => exact suffix_of_skipSpace_cons next
  | case2 => exact suffix_of_skipSpace rfl

end CloudDiagram.Json
