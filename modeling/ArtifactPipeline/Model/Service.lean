import ArtifactPipeline.Failure
import ArtifactPipeline.Model.Message

/-!
# Model services

A model service answers requests. It may change with every call, and a call may fail.
-/

namespace ArtifactPipeline

/-- A service that answers requests to a model. -/
class ModelService (σ : Type) where
  /-- The answer to a request, and the service after it. -/
  invoke : ModelRequest → σ → Except Failure ModelResponse × σ

end ArtifactPipeline
