import CloudDiagram.Proofs.Terraform.Literals
import CloudDiagram.Proofs.Terraform.WrittenBlocks

/-!
# Printed blocks can be read in one way only

Something is readable as it is printed when the printed lines determine it together
with the lines that stand behind them. Readable things may be printed one after another
if a line stands behind them with which none of them starts: a brace behind the items
of a block, the mark behind the lines of a document, an empty line behind the blocks.

So the lines of a text are read from the first one on, and each says what follows. The
first line of an item names it and shows of which form it is; the first line of a block
is its header. Well-formed blocks that are printed alike are therefore the same blocks.
-/

namespace CloudDiagram.Terraform

variable {α β : Type}

/-- Printed good things are determined, with what stands behind them. The rest is
arbitrary and need not be the same for both, so readable things can be put in front
of others. -/
def Readable (good : α → Prop) (print : α → List β) : Prop :=
  ∀ ⦃first second : α⦄, good first → good second → ∀ ⦃rest others : List β⦄,
    print first ++ rest = print second ++ others → first = second ∧ rest = others

/-- Readable things one after another are readable when a line stands behind them
with which none of them starts. The line tells on both sides whether another thing
follows, so the two lists end together. -/
theorem Readable.flatMap {good : α → Prop} {print : α → List β} {stop : β}
    (readable : Readable good print) (starts : ∀ thing, good thing →
      ∃ first body, print thing = first :: body ∧ first ≠ stop) :
    Readable (fun things : List α => ∀ thing ∈ things, good thing)
      (fun things => things.flatMap print ++ [stop]) := by
  intro things
  induction things with
  | nil =>
    intro second _ goodSecond rest others same
    cases second with
    | nil => exact ⟨rfl, (List.cons.inj same).2⟩
    | cons thing second =>
      have good := goodSecond thing List.mem_cons_self
      obtain ⟨first, body, printed, different⟩ := starts thing good
      simp only [List.flatMap_cons, printed, List.cons_append] at same
      exact absurd (List.cons.inj same).1.symm different
  | cons thing things inductionHypothesis =>
    intro second goodFirst goodSecond rest others same
    obtain ⟨goodThing, goodThings⟩ := List.forall_mem_cons.mp goodFirst
    cases second with
    | nil =>
      obtain ⟨first, body, printed, different⟩ := starts thing goodThing
      simp only [List.flatMap_cons, printed, List.cons_append] at same
      exact absurd (List.cons.inj same).1 different
    | cons other second =>
      obtain ⟨goodOther, goodOthers⟩ := List.forall_mem_cons.mp goodSecond
      simp only [List.flatMap_cons, List.append_assoc] at same
      obtain ⟨rfl, behind⟩ := readable goodThing goodOther same
      obtain ⟨rfl, tails⟩ := inductionHypothesis goodThings goodOthers
        (by simpa only [List.append_assoc] using behind)
      exact ⟨rfl, tails⟩

/-- Things that stand on a line each are readable when different ones have different
lines, and the line behind them is none of these. -/
theorem Readable.map {good : α → Prop} {line : α → β} {stop : β}
    (different : ∀ ⦃first second⦄, good first → good second → line first = line second →
      first = second) (starts : ∀ thing, good thing → line thing ≠ stop) :
    Readable (fun things : List α => ∀ thing ∈ things, good thing)
      (fun things => things.map line ++ [stop]) := by
  have single : Readable good fun thing => [line thing] := by
    intro first second goodFirst goodSecond rest others same
    obtain ⟨lines, tails⟩ := List.cons.inj same
    exact ⟨different goodFirst goodSecond lines, tails⟩
  have several := single.flatMap fun thing goodThing =>
    ⟨line thing, [], rfl, starts thing goodThing⟩
  simpa only [← List.map_eq_flatMap] using several

/-- An argument in a nested list is determined by its line. The name ends at the
first space, as an identifier holds none, and what follows is the printed value. -/
theorem argumentLine_inj {name other : String} {value value' : Expression}
    (identifier : isIdentifier name = true) (identifier' : isIdentifier other = true)
    (same : argumentLine (name, value) = argumentLine (other, value')) :
    (name, value) = (other, value') := by
  have letters : name.toList ++ ' ' :: '=' :: ' ' :: value.print.toList =
      other.toList ++ ' ' :: '=' :: ' ' :: value'.print.toList := by
    simpa [argumentLine] using congrArg String.toList same
  obtain ⟨names, tails⟩ := eq_of_append_cons_eq (space_not_mem_identifier identifier)
    (space_not_mem_identifier identifier') letters
  have values : value.print.toList = value'.print.toList := by simpa using tails
  rw [String.toList_inj.mp names, Expression.print_inj (String.toList_inj.mp values)]

/-- An entry of a mapping is determined by its line. A key may be quoted and hold
spaces, but it can be told from what stands behind it. -/
theorem entryLine_inj {key other value value' : String}
    (same : entryLine (key, value) = entryLine (other, value')) :
    (key, value) = (other, value') := by
  have letters : (mappingKey key).toList ++ ' ' :: '=' :: ' ' :: (literal value).toList =
      (mappingKey other).toList ++ ' ' :: '=' :: ' ' :: (literal value').toList := by
    simpa [entryLine] using congrArg String.toList same
  obtain ⟨rfl, tails⟩ := mappingKey_append_inj letters
  have values : (literal value).toList = (literal value').toList := by simpa using tails
  rw [literal_inj (String.toList_inj.mp values)]

/-- A line inside an item does not end it, because it is indented further. -/
theorem Indented.ne_itemEnd {line : String} (indented : Indented line) : line ≠ itemEnd := by
  obtain ⟨text, rfl⟩ := indented
  intro same
  have letters := congrArg String.toList same
  simp [itemEnd] at letters

/-- The arguments in a nested list are readable, up to the end of the list. Each is
on a line of its own, which is indented and hence not the end. -/
theorem arguments_readable :
    Readable (fun arguments : List (String × Expression) => ∀ argument ∈ arguments,
      isIdentifier argument.1 = true ∧ argument.2.WellFormed)
      (fun arguments => arguments.map argumentLine ++ [itemEnd]) := by
  refine .map ?_ fun argument _ => (argumentLine_indented argument).ne_itemEnd
  intro first second goodFirst goodSecond same
  exact argumentLine_inj goodFirst.1 goodSecond.1 same

/-- The entries of a mapping are readable, up to the end of the mapping. They need
no condition: any key and any value is written on one line. -/
theorem entries_readable :
    Readable (fun entries : List (String × String) => ∀ entry ∈ entries, True)
      (fun entries => entries.map entryLine ++ [itemEnd]) := by
  refine .map ?_ fun entry _ => (entryLine_indented entry).ne_itemEnd
  intro first second _ _ same
  exact entryLine_inj same

/-- A text is determined by its lines, as joining them with newlines gives it back.
-/
theorem textLines_inj {text other : String} (same : textLines text = textLines other) :
    text = other := by
  have split : text.toList.splitOn '\n' = other.toList.splitOn '\n' :=
    List.map_injective_iff.mpr (fun _ _ => String.ofList_inj.mp) same
  have joined := congrArg (List.intercalate ['\n']) split
  rw [List.intercalate_splitOn, List.intercalate_splitOn] at joined
  exact String.toList_inj.mp joined

/-- The lines of a document are readable, up to the mark. This is where the
condition on policies is needed: the document must not hold the mark itself. -/
theorem document_readable :
    Readable (fun content : String => documentMark ∉ textLines content)
      (fun content => textLines content ++ [documentMark]) := by
  intro first second goodFirst goodSecond rest others same
  simp only [List.append_assoc, List.singleton_append] at same
  obtain ⟨lines, tails⟩ := eq_of_append_cons_eq goodFirst goodSecond same
  exact ⟨textLines_inj lines, tails⟩

/-- Items are readable. The first line shows the name and the form, and the lines
behind it are read as the form says. -/
theorem Item.readable : Readable WellFormed written := by
  intro first second goodFirst goodSecond rest others same
  rw [written, written, List.cons_append, List.cons_append] at same
  obtain ⟨openings, bodies⟩ := List.cons.inj same
  obtain ⟨names, signs⟩ := opening_inj goodFirst.identifier goodSecond.identifier openings
  have forms : first.form = second.form := by rw [← ofSign_sign, signs, ofSign_sign]
  cases first with
  | argument name value =>
    cases second with
    | argument name' value' =>
      have letters : value.print.toList = value'.print.toList := by
        simpa [sign] using congrArg String.toList signs
      have values := Expression.print_inj (String.toList_inj.mp letters)
      exact ⟨congrArg₂ argument names values, bodies⟩
    | nested _ _ | document _ _ | mapping _ _ => cases forms
  | nested name arguments =>
    cases second with
    | nested name' arguments' =>
      obtain ⟨same, tails⟩ := arguments_readable goodFirst.2 goodSecond.2 bodies
      exact ⟨congrArg₂ nested names same, tails⟩
    | argument _ _ | document _ _ | mapping _ _ => cases forms
  | document name content =>
    cases second with
    | document name' content' =>
      obtain ⟨same, tails⟩ := document_readable goodFirst.2.1 goodSecond.2.1 bodies
      exact ⟨congrArg₂ document names same, tails⟩
    | argument _ _ | nested _ _ | mapping _ _ => cases forms
  | mapping name entries =>
    cases second with
    | mapping name' entries' =>
      obtain ⟨same, tails⟩ := entries_readable (fun _ _ => trivial) (fun _ _ => trivial) bodies
      exact ⟨congrArg₂ mapping names same, tails⟩
    | argument _ _ | nested _ _ | document _ _ => cases forms

/-- The items of a block are readable, up to the end of the block. An item starts
with an indented line, and the end of the block is not indented. -/
theorem items_readable :
    Readable (fun items : List Item => ∀ item ∈ items, item.WellFormed)
      (fun items => items.flatMap Item.written ++ [blockEnd]) := by
  refine Item.readable.flatMap fun item _ => ⟨opening item.name item.sign, item.body, rfl, ?_⟩
  intro same
  have letters := congrArg String.toList same
  simp [opening, blockEnd] at letters

/-- An address is determined by the header. Both of its parts are literals, and a
literal can be told from what stands behind it. -/
theorem header_inj {address other : Address} (same : Block.header address = Block.header other) :
    address = other := by
  have letters : (literal address.type).toList ++
      ' ' :: ((literal address.name).toList ++ " \x7b".toList) =
      (literal other.type).toList ++
        ' ' :: ((literal other.name).toList ++ " \x7b".toList) := by
    simpa [Block.header] using congrArg String.toList same
  obtain ⟨types, tails⟩ := literal_append_inj letters
  obtain ⟨names, _⟩ := literal_append_inj (List.cons.inj tails).2
  cases address
  cases other
  exact congrArg₂ Address.mk types names

/-- Blocks are readable. The header is one line, the items are read up to the end of
the block, and an empty line follows. -/
theorem Block.readable : Readable WellFormed written := by
  intro first second goodFirst goodSecond rest others same
  rw [written, written, List.cons_append, List.cons_append] at same
  obtain ⟨headers, bodies⟩ := List.cons.inj same
  obtain ⟨address, items⟩ := first
  obtain ⟨address', items'⟩ := second
  have lines : (items.flatMap Item.written ++ [blockEnd]) ++ "" :: rest =
      (items'.flatMap Item.written ++ [blockEnd]) ++ "" :: others := by
    simpa using bodies
  obtain ⟨rfl, tails⟩ := items_readable goodFirst goodSecond lines
  obtain rfl := header_inj headers
  exact ⟨rfl, (List.cons.inj tails).2⟩

/-- Well-formed blocks that are printed alike are equal. A block starts with a
header, which is not the empty line that stands behind the last block. -/
theorem printBlocks_inj {first second : List Block}
    (goodFirst : ∀ block ∈ first, block.WellFormed)
    (goodSecond : ∀ block ∈ second, block.WellFormed)
    (same : printBlocks first = printBlocks second) : first = second := by
  have several : Readable (fun blocks : List Block => ∀ block ∈ blocks, block.WellFormed)
      (fun blocks => blocks.flatMap Block.written ++ [""]) := by
    refine Block.readable.flatMap fun block _ => ⟨Block.header block.address, _, rfl, ?_⟩
    intro empty
    have letters := congrArg String.toList empty
    simp [Block.header] at letters
  have lines := congrArg textLines same
  rw [textLines_printBlocks goodFirst, textLines_printBlocks goodSecond] at lines
  exact (several goodFirst goodSecond (congrArg (· ++ []) lines)).1

end CloudDiagram.Terraform
