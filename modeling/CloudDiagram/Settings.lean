import CloudDiagram.Json.Record
import CloudDiagram.Json.Writer
import CloudDiagram.Text.Blank

/-!
# Settings

What a user may choose about the generated code and the timeline. Every setting has
a default, in a text as well as in the library; a text may leave any of them out,
but a setting that is there has to be of its type.
-/

namespace CloudDiagram

open Json

/-- The value of the tag `Environment` of resources that set none. Preset resources
are tagged with it as well. -/
def defaultEnvironment : String := "production"

/-- The name of the network of instances that are placed in none. No block of this
name need be declared. -/
def defaultPlaceholder : String := "default-vpc"

/-- Settings of the code generator. They are part of the settings of a workspace and
do not change while it is used, so equal diagrams have equal code. -/
structure GeneratorSettings where
  /-- Written for resources without an environment of their own. -/
  environment : String := defaultEnvironment
  /-- Stands in for the network of an instance that is placed in none. -/
  placeholder : String := defaultPlaceholder
  /-- Whether tags other than the name and the environment are written. -/
  extraTags : Bool := true
deriving DecidableEq, Repr

/-- Settings of a workspace. They are given once, when it is started. -/
structure WorkspaceSettings where
  generator : GeneratorSettings := {}
  /-- The largest number of timeline entries; none for no limit. -/
  entryLimit : Option UInt64 := none
deriving DecidableEq, Repr

namespace GeneratorSettings

/-- What has been read of the generator settings. A field is empty until its key was
seen, and a key that comes a second time is a fault. -/
structure Draft where
  environment : Option String := none
  placeholder : Option String := none
  extraTags : Option Bool := none

/-- How generator settings are read. No field is required, and one that is left out
has its default; the fields may come as an object or as an array in this order. -/
def shape : Shape Draft GeneratorSettings where
  title := "GeneratorConfig"
  fields := [
    .ofReader "default_environment" Draft.environment
      (fun draft environment => { draft with environment := some environment })
      (fun _ text => .ofExcept (scanText text)),
    .ofReader "placeholder_network" Draft.placeholder
      (fun draft placeholder => { draft with placeholder := some placeholder })
      (fun _ text => .ofExcept (scanText text)),
    .ofReader "extra_tags" Draft.extraTags
      (fun draft extraTags => { draft with extraTags := some extraTags })
      (fun _ text => .ofExcept (scanFlag text))]
  blank := {}
  complete draft := .ok {
    environment := draft.environment.getD defaultEnvironment
    placeholder := draft.placeholder.getD defaultPlaceholder
    extraTags := draft.extraTags.getD true }

/-- Generator settings as a value, with all fields, also those that have their
defaults. -/
def toValue (settings : GeneratorSettings) : Value :=
  .object [
    ("default_environment", .string settings.environment),
    ("placeholder_network", .string settings.placeholder),
    ("extra_tags", .bool settings.extraTags)]

/-- The generator settings that a text describes, where anything around the value
but blanks is a fault. -/
def ofText (text : String) : Reading GeneratorSettings := readWhole shape.read text

end GeneratorSettings

namespace WorkspaceSettings

/-- What has been read of the workspace settings. A limit that was read as none is
told apart from one that was not read. -/
structure Draft where
  generator : Option GeneratorSettings := none
  entryLimit : Option (Option UInt64) := none

/-- How workspace settings are read. No field is required, and the generator's
settings are read where they stand, as an object or an array of their own. -/
def shape : Shape Draft WorkspaceSettings where
  title := "StoreConfig"
  fields := [
    .ofReader "generator" Draft.generator
      (fun draft generator => { draft with generator := some generator })
      GeneratorSettings.shape.read,
    .ofReader "history_limit" Draft.entryLimit
      (fun draft entryLimit => { draft with entryLimit := some entryLimit })
      (fun _ text => .ofExcept (scanOptionalCount text))]
  blank := {}
  complete draft := .ok {
    generator := draft.generator.getD {}
    entryLimit := draft.entryLimit.getD none }

/-- Workspace settings as a value, with all fields; no limit is written as null. -/
def toValue (settings : WorkspaceSettings) : Value :=
  .object [
    ("generator", settings.generator.toValue),
    ("history_limit", settings.entryLimit.elim .null .ofUInt64)]

/-- The workspace settings that a text describes, where anything around the value
but blanks is a fault. -/
def ofText (text : String) : Reading WorkspaceSettings := readWhole shape.read text

/-- Workspace settings as text, on one line and without blanks. -/
def text (settings : WorkspaceSettings) : String := settings.toValue.text

/-- The workspace settings of a text, where a blank text and one that cannot be read
both stand for the defaults. A text with one wrong setting is as good as no text. -/
def ofTextOrDefault (text : String) : WorkspaceSettings :=
  if Text.isBlank text then {} else (ofText text).value?.getD {}

end WorkspaceSettings

end CloudDiagram
