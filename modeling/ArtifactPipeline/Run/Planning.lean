import ArtifactPipeline.Plan.Classification
import ArtifactPipeline.Plan.Routing
import ArtifactPipeline.Plan.Similar
import ArtifactPipeline.Plan.Steps
import ArtifactPipeline.Prompt.Text
import ArtifactPipeline.World

/-!
# Planning

A request is classified with one call of the fast model. Similar patterns are looked up, a tier is
chosen, and the rest of the plan follows from the classification.
-/

namespace ArtifactPipeline

/-- What a classification call gave. -/
structure ClassificationOutcome where
  classification : Classification
  usage : TokenUsage
  /-- The model that served the call. -/
  modelId : String
  deriving Repr

/-- A plan and what it cost to make it. -/
structure PlanningOutcome where
  plan : Plan
  usage : TokenUsage
  /-- The estimated price in US dollars. -/
  cost : Float
  deriving Repr

variable {σ π : Type}

/-- The request that asks for the classification of a prompt. -/
def classificationRequest (config : Config) (prompt : String) : ModelRequest where
  modelId := config.models.fastModel
  messages := [⟨.system, Prompt.classification⟩, ⟨.user, prompt⟩]
  temperature := config.pipeline.classificationTemperature
  maxTokens := config.pipeline.classificationMaxTokens

/-- Classifies a prompt. A reply that cannot be read gives the default classification. -/
def classify [ModelService σ] (config : Config) (prompt : String) :
    Work σ π ClassificationOutcome := do
  let response ← Work.invoke (classificationRequest config prompt)
  return {
    classification := (Classification.parse response.content).getD {}
    usage := response.usage
    modelId := response.modelId }

/-- Looks up at most three patterns that are similar to a request of some intent. -/
def findSimilar (intent : Intent) : Work σ π (List PatternReference) := do
  let sameIntent ← Work.store (.listPatterns (some intent))
  if sameIntent.isEmpty then
    let anyIntent ← Work.store (.listPatterns none)
    return Plan.similarOfAny anyIntent
  else return Plan.similarOfIntent sameIntent

/-- The plan that follows from a classification, the chosen tier and the similar patterns. -/
def Plan.ofClassification (c : Classification) (decision : RoutingDecision)
    (similar : List PatternReference) : Plan where
  intent := c.intent
  complexity := c.complexity
  steps := Plan.stepsFor c.intent c.complexity
  estimatedTokens := c.complexity.tokenBudget
  tier := decision.tier
  modelId := decision.modelId
  similarPatterns := similar
  suggestedDependencies := c.suggestedDependencies
  keyFeatures := c.keyFeatures
  estimatedLines := c.estimatedLines

/-- Makes the plan for a prompt. -/
def makePlan [ModelService σ] (config : Config) (prompt : String) (mood : Mood) :
    Work σ π PlanningOutcome := do
  let outcome ← classify config prompt
  let c := outcome.classification
  let similar ← findSimilar c.intent
  let decision := route config.models RoutingStrategy.standard ⟨c.complexity, mood⟩
  return {
    plan := Plan.ofClassification c decision similar
    usage := outcome.usage
    cost := Tier.fast.cost outcome.usage.total }

end ArtifactPipeline
