import ArtifactPipeline.Plan.Intent
import ArtifactPipeline.Plan.Tier
import ArtifactPipeline.Config.Basic
import ArtifactPipeline.Session.Request

/-!
# Choosing a tier

Strategies decide which tier serves a request. Of those that have an opinion about it, the one with
the highest priority wins, and among equal priorities the first one.
-/

namespace ArtifactPipeline

open Json

/-- What a strategy looks at. -/
structure RoutingInput where
  complexity : Complexity
  mood : Mood
  deriving Repr, DecidableEq

/-- A way of choosing a tier. -/
structure RoutingStrategy where
  name : String
  priority : Nat
  /-- Whether the strategy has an opinion. -/
  appliesTo : RoutingInput → Bool
  tier : RoutingInput → Tier

/-- The tier that was chosen, the model that serves it and the strategy that chose it. -/
structure RoutingDecision where
  tier : Tier
  modelId : String
  reasoning : String
  deriving Repr, DecidableEq

namespace RoutingStrategy

/-- An exploratory request gets the most capable model. -/
def exploratoryMood : RoutingStrategy where
  name := "ExploratoryMood"
  priority := 100
  appliesTo input := input.mood == .exploratory
  tier _ := .capable

/-- Only a simple request goes to the fast tier. -/
def byComplexity : RoutingStrategy where
  name := "Complexity"
  priority := 50
  appliesTo _ := true
  tier input := if input.complexity == .simple then .fast else .capable

/-- The strategies that are used unless others are given. -/
def standard : List RoutingStrategy := [exploratoryMood, byComplexity]

end RoutingStrategy

/-- Chooses the tier and the model for a request. Without an opinion it is the capable tier. -/
def route (models : ModelSettings) (strategies : List RoutingStrategy) (input : RoutingInput) :
    RoutingDecision :=
  let ranked := strategies.mergeSort fun a b => b.priority ≤ a.priority
  match ranked.find? (·.appliesTo input) with
  | some s => ⟨s.tier input, models.modelFor (s.tier input), s.name⟩
  | none => ⟨.capable, models.modelFor .capable, "default"⟩

namespace RoutingDecision

/-- The JSON value of a decision. -/
def toJson (d : RoutingDecision) : Value :=
  .obj [("tier", d.tier.toJson), ("model_id", .str d.modelId), ("reasoning", .str d.reasoning)]

/-- Reads a decision. -/
def ofNode? (node : Node) : Option RoutingDecision := do
  let r ← Record.ofNode? ["tier", "model_id", "reasoning"] node
  return {
    tier := ← r.required "tier" Tier.ofNode?
    modelId := ← r.required "model_id" Node.text?
    reasoning := ← r.required "reasoning" Node.text? }

end RoutingDecision

end ArtifactPipeline
