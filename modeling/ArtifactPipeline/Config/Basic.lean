import ArtifactPipeline.Plan.Tier

/-!
# Settings

The settings of the pipeline, in four sections. Every setting has a default.
-/

namespace ArtifactPipeline

open Json

/-- How the pipeline behaves. -/
structure PipelineSettings where
  /-- The most repairs per session. -/
  maxAttempts : Nat := 3
  /-- Characters per chunk. -/
  chunkSize : Nat := 100
  classificationTemperature : Float32 := 0.1
  generationTemperature : Float32 := 0.3
  repairTemperature : Float32 := 0.2
  /-- The most tokens of a classification. -/
  classificationMaxTokens : Nat := 500
  /-- The most characters of a reference component in a prompt. -/
  snippetChars : Nat := 1500
  deriving Repr

/-- Which model serves which tier. -/
structure ModelSettings where
  fastModel : String := "anthropic/claude-3.5-haiku"
  capableModel : String := "anthropic/claude-sonnet-4"
  /-- The seconds that a call may take. -/
  timeoutSeconds : Nat := 120
  deriving Repr, DecidableEq

/-- The limits of validation. -/
structure ValidationSettings where
  /-- The most lines of a component. -/
  maxLines : Nat := 500
  /-- The most memory of a compiled pattern in bytes. -/
  regexLimit : Nat := 1048576
  deriving Repr, DecidableEq

/-- The keys of model services. -/
structure ApiKeys where
  openRouter : Option String := none
  deriving Repr, DecidableEq

/-- All settings. -/
structure Config where
  pipeline : PipelineSettings := {}
  models : ModelSettings := {}
  validation : ValidationSettings := {}
  keys : ApiKeys := {}
  deriving Repr

/-- The model that serves a tier. -/
def ModelSettings.modelFor (m : ModelSettings) : Tier → String
  | .fast => m.fastModel
  | .capable => m.capableModel

end ArtifactPipeline
