import ArtifactPipeline.Model.Script

/-!
# Models that stall

A model may never answer some requests. With a deadline such a call fails when the time is up; an
answer that is there at once is always in time.
-/

namespace ArtifactPipeline

open Text

/-- A model that does not answer requests that contain certain texts, and the seconds after which a
call is given up. -/
structure StallingModel (σ : Type) where
  model : σ
  stalls : List String := []
  deadline : Nat := 0

namespace StallingModel

variable {σ : Type} [ModelService σ]

/-- Whether the model never answers a request. -/
def stallsOn (m : StallingModel σ) (request : ModelRequest) : Bool :=
  m.stalls.any fun s => occursIn s.toList request.fullText.toList

/-- Answers a request. A request on which the model stalls does not reach it. -/
def invoke (request : ModelRequest) (m : StallingModel σ) :
    Except Failure ModelResponse × StallingModel σ :=
  if m.stallsOn request then (.error (.timeout m.deadline), m)
  else
    let (result, model) := ModelService.invoke request m.model
    (result, { m with model })

/-- Requests on which the model stalls fail; it answers the others as the model behind it does. -/
instance : ModelService (StallingModel σ) where
  invoke := invoke

end StallingModel

end ArtifactPipeline
