import ArtifactPipeline.Config.Json
import ArtifactPipeline.Failure
import ArtifactPipeline.Text.Search
import ArtifactPipeline.Toml.Parser
import ArtifactPipeline.Toml.Printer

/-!
# The file of settings

The settings are kept in a TOML file in the home directory of the user. Reading fills in defaults
and passes over names that are not known. A missing file is written when the settings are first
loaded.
-/

namespace ArtifactPipeline

open Text

/-! ## Reading -/

/-- Reads the section for the pipeline. -/
def PipelineSettings.ofToml? (v : Toml.Value) : Option PipelineSettings := do
  let r ← v.record? partNames
  let d : PipelineSettings := {}
  let nat32 := Toml.Value.natBelow? (Nat.pow 2 32)
  let nat64 := Toml.Value.natBelow? (Nat.pow 2 64)
  let float := Toml.Value.float32?
  return {
    maxAttempts := ← r.withDefault "max_reflexion_attempts" d.maxAttempts nat32
    chunkSize := ← r.withDefault "chunk_size" d.chunkSize nat64
    classificationTemperature :=
      ← r.withDefault "classification_temperature" d.classificationTemperature float
    generationTemperature :=
      ← r.withDefault "generation_temperature" d.generationTemperature float
    repairTemperature := ← r.withDefault "repair_temperature" d.repairTemperature float
    classificationMaxTokens :=
      ← r.withDefault "classification_max_tokens" d.classificationMaxTokens nat32
    snippetChars := ← r.withDefault "reference_snippet_chars" d.snippetChars nat64 }

/-- Reads the section for the models. -/
def ModelSettings.ofToml? (v : Toml.Value) : Option ModelSettings := do
  let r ← v.record? partNames
  let d : ModelSettings := {}
  return {
    fastModel := ← r.withDefault "fast_model" d.fastModel Toml.Value.text?
    capableModel := ← r.withDefault "capable_model" d.capableModel Toml.Value.text?
    timeoutSeconds :=
      ← r.withDefault "timeout_seconds" d.timeoutSeconds (Toml.Value.natBelow? (Nat.pow 2 64)) }

/-- Reads the section for the validation. -/
def ValidationSettings.ofToml? (v : Toml.Value) : Option ValidationSettings := do
  let r ← v.record? partNames
  let d : ValidationSettings := {}
  let nat64 := Toml.Value.natBelow? (Nat.pow 2 64)
  return {
    maxLines := ← r.withDefault "max_lines" d.maxLines nat64
    regexLimit := ← r.withDefault "regex_size_limit" d.regexLimit nat64 }

/-- Reads the section for the keys. -/
def ApiKeys.ofToml? (v : Toml.Value) : Option ApiKeys := do
  let r ← v.record? partNames
  return { openRouter := ← r.possible "openrouter_api_key" fun v => v.text?.map some }

namespace Config

/-- The settings that a document describes. -/
def ofDocument? (document : Toml.Entries) : Option Config := do
  let r ← Toml.Entries.record? sectionNames document
  return {
    pipeline := ← r.withDefault "pipeline" {} PipelineSettings.ofToml?
    models := ← r.withDefault "models" {} ModelSettings.ofToml?
    validation := ← r.withDefault "validation" {} ValidationSettings.ofToml?
    keys := ← r.withDefault "api_keys" {} ApiKeys.ofToml? }

/-- The settings in the text of a file. -/
def ofText (text : String) : Except Failure Config :=
  match (Toml.parse text.toList).bind ofDocument? with
  | some config => .ok config
  | none => .error (.toml "the text does not describe settings")

/-- The settings in the bytes of a file. -/
def ofBytes (bytes : ByteArray) : Except Failure Config :=
  match String.fromUTF8? bytes with
  | some text => ofText text
  | none => .error (.io "stream did not contain valid UTF-8")

/-! ## Writing -/

/-- A line that gives a setting. -/
def writeSetting (name : String) (value : List Char) : List Char :=
  name.toList ++ [' ', '=', ' '] ++ value ++ ['\n']

/-- A section with its lines. -/
def writeSection (name : String) (lines : List (List Char)) : List Char :=
  '[' :: name.toList ++ [']', '\n'] ++ lines.flatten

/-- What stands above the settings in a file. -/
def banner : String :=
  join "\n" [
    "# Forge Configuration File",
    "# This file is automatically generated on first run",
    "# Edit this file to customize your settings",
    "",
    ""]

/-- The sections of a file. -/
def sections (c : Config) : List (List Char) := [
  writeSection "pipeline" [
    writeSetting "max_reflexion_attempts" (Toml.writeNat c.pipeline.maxAttempts),
    writeSetting "chunk_size" (Toml.writeNat c.pipeline.chunkSize),
    writeSetting "classification_temperature"
      (Toml.writeFloat32 c.pipeline.classificationTemperature),
    writeSetting "generation_temperature" (Toml.writeFloat32 c.pipeline.generationTemperature),
    writeSetting "repair_temperature" (Toml.writeFloat32 c.pipeline.repairTemperature),
    writeSetting "classification_max_tokens" (Toml.writeNat c.pipeline.classificationMaxTokens),
    writeSetting "reference_snippet_chars" (Toml.writeNat c.pipeline.snippetChars)],
  writeSection "models" [
    writeSetting "fast_model" (Toml.writeText c.models.fastModel.toList),
    writeSetting "capable_model" (Toml.writeText c.models.capableModel.toList),
    writeSetting "timeout_seconds" (Toml.writeNat c.models.timeoutSeconds)],
  writeSection "validation" [
    writeSetting "max_lines" (Toml.writeNat c.validation.maxLines),
    writeSetting "regex_size_limit" (Toml.writeNat c.validation.regexLimit)],
  writeSection "api_keys" (c.keys.openRouter.toList.map fun key =>
    writeSetting "openrouter_api_key" (Toml.writeText key.toList))]

/-- The text of the file that keeps some settings. -/
def toText (c : Config) : String :=
  banner ++ String.ofList (['\n'].intercalate (sections c))

/-- The settings that are machine words. -/
def words (c : Config) : List Nat :=
  [c.pipeline.chunkSize, c.pipeline.snippetChars, c.models.timeoutSeconds, c.validation.maxLines,
    c.validation.regexLimit]

/-- Saves some settings: the text of the file, or a failure if a word is too great for the signed
integers of TOML. -/
def save (c : Config) : Except Failure String :=
  if c.words.all (· < Nat.pow 2 63) then .ok c.toText
  else .error (.config "Failed to serialize config: out-of-range value for u64 type")

/-! ## Places -/

/-- The directory of the settings below a home directory. -/
def directory (home : String) : String :=
  (if home.endsWith "/" then home else home ++ "/") ++ ".forge"

/-- The file of the settings below a home directory. -/
def path (home : String) : String := directory home ++ "/config.toml"

/-- The settings that are in force, given the text of the file if it exists, and the text that has
to be written if it does not. -/
def loadOrCreate (existing : Option String) : Except Failure (Config × Option String) :=
  match existing with
  | some text => (ofText text).map (·, none)
  | none => (save {}).map ({}, some ·)

/-! ## Keys -/

/-- The name of the environment variable with the key of the hosted models. -/
def keyVariable : String := "OPENROUTER_API_KEY"

/-- The key of the hosted models: the one in the file, or else the one in the environment. -/
def hostedKey (c : Config) (environment : Option String) : Option String :=
  c.keys.openRouter.or environment

end Config

end ArtifactPipeline
