import ArtifactPipeline.Plan.Intent
import ArtifactPipeline.Plan.Tier

/-!
# Plans

What is decided about a request before anything is generated: its category and complexity, the
steps to follow, the model to ask and the stored patterns to look at.
-/

namespace ArtifactPipeline

open Json

/-- A stored pattern that a plan refers to. -/
structure PatternReference where
  id : String
  /-- How close the pattern is to the request, from 0 to 1. -/
  similarity : Float
  name : String
  deriving Repr

/-- The outcome of planning. -/
structure Plan where
  intent : Intent
  complexity : Complexity
  /-- What to do, in order. -/
  steps : List String
  /-- The token budget of the generation. -/
  estimatedTokens : Nat
  tier : Tier
  /-- The model that serves the tier. -/
  modelId : String
  /-- At most three patterns, best first. -/
  similarPatterns : List PatternReference
  suggestedDependencies : List String
  keyFeatures : List String
  estimatedLines : Option Nat
  deriving Repr

namespace PatternReference

/-- The JSON value of a reference. -/
def toJson (r : PatternReference) : Value :=
  .obj [("id", .str r.id), ("similarity", .float r.similarity), ("name", .str r.name)]

/-- Reads a reference. -/
def ofNode? (node : Node) : Option PatternReference := do
  let r ← Record.ofNode? ["id", "similarity", "name"] node
  return {
    id := ← r.required "id" Node.text?
    similarity := ← r.required "similarity" Node.float?
    name := ← r.required "name" Node.text? }

end PatternReference

namespace Plan

/-- The JSON value of a plan. -/
def toJson (p : Plan) : Value :=
  .obj [
    ("intent", p.intent.toJson),
    ("complexity", p.complexity.toJson),
    ("steps", .list .str p.steps),
    ("estimated_tokens", .nat p.estimatedTokens),
    ("tier", p.tier.toJson),
    ("model_id", .str p.modelId),
    ("similar_patterns", .list PatternReference.toJson p.similarPatterns),
    ("suggested_dependencies", .list .str p.suggestedDependencies),
    ("key_features", .list .str p.keyFeatures),
    ("estimated_lines", .option .nat p.estimatedLines)]

/-- The names of the parts of a plan. -/
def partNames : List String :=
  ["intent", "complexity", "steps", "estimated_tokens", "tier", "model_id", "similar_patterns",
   "suggested_dependencies", "key_features", "estimated_lines"]

/-- Reads a plan. -/
def ofNode? (node : Node) : Option Plan := do
  let r ← Record.ofNode? partNames node
  return {
    intent := ← r.required "intent" Intent.ofNode?
    complexity := ← r.required "complexity" Complexity.ofNode?
    steps := ← r.required "steps" (Node.list? Node.text?)
    estimatedTokens := ← r.required "estimated_tokens" Node.nat32?
    tier := ← r.required "tier" Tier.ofNode?
    modelId := ← r.required "model_id" Node.text?
    similarPatterns := ← r.required "similar_patterns" (Node.list? PatternReference.ofNode?)
    suggestedDependencies := ← r.required "suggested_dependencies" (Node.list? Node.text?)
    keyFeatures := ← r.required "key_features" (Node.list? Node.text?)
    estimatedLines := ← r.optional "estimated_lines" Node.nat32? }

end Plan

end ArtifactPipeline
