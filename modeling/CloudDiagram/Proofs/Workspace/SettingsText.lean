import CloudDiagram.Proofs.Json.Records
import CloudDiagram.Settings

/-!
# Settings survive the wire

Settings are written with all their fields, also those that have their defaults, and are read as
they were written. A limit is a whole number of 64 bits, of which none is too large to be read;
no limit is written as null.
-/

namespace CloudDiagram

open Json

/-- A truth value is read as it was written, which is one of the two words and
nothing else. -/
theorem reads_flag (flag : Bool) :
    Reads (fun chars => .ofExcept (scanFlag chars)) (Value.bool flag).chars (some flag) :=
  reads_scanWanted .flag _ rfl

/-- A number of 64 bits, or none, is read as it was written. Its digits have no sign
and no point, so it is read as a whole number, and none of them is too large. -/
theorem reads_optionalCount (count : Option UInt64) :
    Reads (fun chars => .ofExcept (scanOptionalCount chars))
      (count.elim Value.null .ofUInt64).chars (some count) := by
  cases count with
  | none => exact reads_scanWanted .count _ (rfl : Value.null.nesting = 0)
  | some word =>
    have whole : 0 ≤ (WideInt.ofUInt64 word).value := Int.natCast_nonneg _
    have kept : (WideInt.ofUInt64 word).value.toNat.toUInt64 = word := by simp [WideInt.ofUInt64]
    have read : Reads (fun chars => .ofExcept (scanOptionalCount chars))
        (Value.ofUInt64 word).chars
        (if 0 ≤ (WideInt.ofUInt64 word).value then
          some (some (WideInt.ofUInt64 word).value.toNat.toUInt64) else none) :=
      reads_scanWanted .count _ (rfl : (Value.ofUInt64 word).nesting = 0)
    rwa [if_pos whole, kept] at read

/-- Generator settings are read as they were written. The keys are written in their
order and each of them once, so every field of the draft is empty when its key
comes. -/
theorem reads_generatorSettings (depth : Nat) (settings : GeneratorSettings) :
    Reads (GeneratorSettings.shape.read (depth + 1)) settings.toValue.chars (some settings) := by
  obtain ⟨environment, placeholder, extraTags⟩ := settings
  have readEnvironment (draft : GeneratorSettings.Draft) (empty : draft.environment = none) :
      Reads (GeneratorSettings.shape.readMember depth "default_environment" draft)
        (':' :: (Value.string environment).chars)
        (some { draft with environment := some environment }) :=
    reads_field rfl empty (reads_text environment) rfl
  have readPlaceholder (draft : GeneratorSettings.Draft) (empty : draft.placeholder = none) :
      Reads (GeneratorSettings.shape.readMember depth "placeholder_network" draft)
        (':' :: (Value.string placeholder).chars)
        (some { draft with placeholder := some placeholder }) :=
    reads_field rfl empty (reads_text placeholder) rfl
  have readExtraTags (draft : GeneratorSettings.Draft) (empty : draft.extraTags = none) :
      Reads (GeneratorSettings.shape.readMember depth "extra_tags" draft)
        (':' :: (Value.bool extraTags).chars) (some { draft with extraTags := some extraTags }) :=
    reads_field rfl empty (reads_flag extraTags) rfl
  exact reads_record (.more (readEnvironment {} rfl) (.more (readPlaceholder _ rfl)
    (.more (readExtraTags _ rfl) (.done _))))

/-- Workspace settings are read as they were written, the generator's among them.
These are one level deeper, which is why two levels are left for the whole. -/
theorem reads_workspaceSettings (depth : Nat) (settings : WorkspaceSettings) :
    Reads (WorkspaceSettings.shape.read (depth + 2)) settings.toValue.chars (some settings) := by
  obtain ⟨generator, entryLimit⟩ := settings
  have readGenerator (draft : WorkspaceSettings.Draft) (empty : draft.generator = none) :
      Reads (WorkspaceSettings.shape.readMember (depth + 1) "generator" draft)
        (':' :: generator.toValue.chars) (some { draft with generator := some generator }) :=
    reads_field rfl empty (reads_generatorSettings depth generator) rfl
  have readLimit (draft : WorkspaceSettings.Draft) (empty : draft.entryLimit = none) :
      Reads (WorkspaceSettings.shape.readMember (depth + 1) "history_limit" draft)
        (':' :: (entryLimit.elim Value.null .ofUInt64).chars)
        (some { draft with entryLimit := some entryLimit }) :=
    reads_field rfl empty (reads_optionalCount entryLimit) rfl
  exact reads_record (.more (readGenerator {} rfl) (.more (readLimit _ rfl) (.done _)))

/-- Workspace settings are read from the text that they are written as, so they can
be stored and brought back without a loss, limits and defaults included. -/
theorem WorkspaceSettings.value?_ofText_text (settings : WorkspaceSettings) :
    (WorkspaceSettings.ofText settings.text).value? = some settings :=
  value?_readWhole (reads_workspaceSettings 125 settings)

end CloudDiagram
