import ArtifactPipeline.Config.Basic

/-!
# Settings as JSON

The JSON form of the settings. Every part may be missing.
-/

namespace ArtifactPipeline

open Json

namespace PipelineSettings

/-- The names of the parts of the section. -/
def partNames : List String :=
  ["max_reflexion_attempts", "chunk_size", "classification_temperature",
   "generation_temperature", "repair_temperature", "classification_max_tokens",
   "reference_snippet_chars"]

/-- The JSON value of the section. -/
def toJson (s : PipelineSettings) : Value :=
  .obj [
    ("max_reflexion_attempts", .nat s.maxAttempts),
    ("chunk_size", .nat s.chunkSize),
    ("classification_temperature", .float s.classificationTemperature.toFloat),
    ("generation_temperature", .float s.generationTemperature.toFloat),
    ("repair_temperature", .float s.repairTemperature.toFloat),
    ("classification_max_tokens", .nat s.classificationMaxTokens),
    ("reference_snippet_chars", .nat s.snippetChars)]

/-- Reads the section. -/
def ofNode? (node : Node) : Option PipelineSettings := do
  let r ← Record.ofNode? partNames node
  let d : PipelineSettings := {}
  return {
    maxAttempts := ← r.withDefault "max_reflexion_attempts" d.maxAttempts Node.nat32?
    chunkSize := ← r.withDefault "chunk_size" d.chunkSize Node.nat64?
    classificationTemperature :=
      ← r.withDefault "classification_temperature" d.classificationTemperature Node.float32?
    generationTemperature :=
      ← r.withDefault "generation_temperature" d.generationTemperature Node.float32?
    repairTemperature := ← r.withDefault "repair_temperature" d.repairTemperature Node.float32?
    classificationMaxTokens :=
      ← r.withDefault "classification_max_tokens" d.classificationMaxTokens Node.nat32?
    snippetChars := ← r.withDefault "reference_snippet_chars" d.snippetChars Node.nat64? }

end PipelineSettings

namespace ModelSettings

/-- The names of the parts of the section. -/
def partNames : List String := ["fast_model", "capable_model", "timeout_seconds"]

/-- The JSON value of the section. -/
def toJson (s : ModelSettings) : Value :=
  .obj [
    ("fast_model", .str s.fastModel),
    ("capable_model", .str s.capableModel),
    ("timeout_seconds", .nat s.timeoutSeconds)]

/-- Reads the section. -/
def ofNode? (node : Node) : Option ModelSettings := do
  let r ← Record.ofNode? partNames node
  let d : ModelSettings := {}
  return {
    fastModel := ← r.withDefault "fast_model" d.fastModel Node.text?
    capableModel := ← r.withDefault "capable_model" d.capableModel Node.text?
    timeoutSeconds := ← r.withDefault "timeout_seconds" d.timeoutSeconds Node.nat64? }

end ModelSettings

namespace ValidationSettings

/-- The names of the parts of the section. -/
def partNames : List String := ["max_lines", "regex_size_limit"]

/-- The JSON value of the section. -/
def toJson (s : ValidationSettings) : Value :=
  .obj [("max_lines", .nat s.maxLines), ("regex_size_limit", .nat s.regexLimit)]

/-- Reads the section. -/
def ofNode? (node : Node) : Option ValidationSettings := do
  let r ← Record.ofNode? partNames node
  let d : ValidationSettings := {}
  return {
    maxLines := ← r.withDefault "max_lines" d.maxLines Node.nat64?
    regexLimit := ← r.withDefault "regex_size_limit" d.regexLimit Node.nat64? }

end ValidationSettings

namespace ApiKeys

/-- The names of the parts of the section. -/
def partNames : List String := ["openrouter_api_key"]

/-- The JSON value of the section. -/
def toJson (k : ApiKeys) : Value := .obj [("openrouter_api_key", .text? k.openRouter)]

/-- Reads the section. -/
def ofNode? (node : Node) : Option ApiKeys := do
  let r ← Record.ofNode? partNames node
  return { openRouter := ← r.optional "openrouter_api_key" Node.text? }

end ApiKeys

namespace Config

/-- The names of the sections. -/
def sectionNames : List String := ["pipeline", "models", "validation", "api_keys"]

/-- The JSON value of the settings. -/
def toJson (c : Config) : Value :=
  .obj [
    ("pipeline", c.pipeline.toJson),
    ("models", c.models.toJson),
    ("validation", c.validation.toJson),
    ("api_keys", c.keys.toJson)]

/-- Reads the settings. -/
def ofNode? (node : Node) : Option Config := do
  let r ← Record.ofNode? sectionNames node
  return {
    pipeline := ← r.withDefault "pipeline" {} PipelineSettings.ofNode?
    models := ← r.withDefault "models" {} ModelSettings.ofNode?
    validation := ← r.withDefault "validation" {} ValidationSettings.ofNode?
    keys := ← r.withDefault "api_keys" {} ApiKeys.ofNode? }

end Config

end ArtifactPipeline
