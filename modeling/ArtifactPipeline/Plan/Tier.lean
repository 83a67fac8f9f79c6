import ArtifactPipeline.Json.Record
import ArtifactPipeline.Json.Value

/-!
# Model tiers

The two grades of models and what their tokens cost.
-/

namespace ArtifactPipeline

/-- The grade of a generation model. -/
inductive Tier where
  | fast
  | capable
  deriving Repr, DecidableEq, Inhabited

namespace Tier

/-- Every tier. -/
def all : List Tier := [fast, capable]

/-- The name of a tier. -/
def label : Tier → String
  | fast => "fast"
  | capable => "capable"

/-- A rough price in US dollars for a million tokens. -/
def costPerMillion : Tier → Float
  | fast => 1.0
  | capable => 15.0

/-- The estimated price of some tokens in US dollars. -/
def cost (t : Tier) (tokens : UInt64) : Float :=
  tokens.toNat.toFloat / 1000000.0 * t.costPerMillion

/-- The JSON value of a tier. -/
def toJson (t : Tier) : Json.Value := .str t.label

/-- Reads the name of a tier. -/
def ofNode? : Json.Node → Option Tier := Json.Node.oneOf? all label

end Tier

end ArtifactPipeline
