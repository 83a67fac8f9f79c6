import ArtifactPipeline.Plan.Intent

/-!
# Classifications

What a model says about a request. The reply is searched for a JSON object, which extends from the
first opening to the last closing brace, and every part of the object may be missing.
-/

namespace ArtifactPipeline

open Json

/-- The structured reading of a request. -/
structure Classification where
  intent : Intent := .custom
  complexity : Complexity := .moderate
  keyFeatures : List String := []
  suggestedDependencies : List String := []
  estimatedLines : Option Nat := none
  deriving Repr, DecidableEq

namespace Classification

/-- The names of the parts of a classification. -/
def partNames : List String :=
  ["intent", "complexity", "key_features", "suggested_dependencies", "estimated_lines"]

/-- Reads what a model wrote. Its names of categories and degrees need not be known. -/
def ofReply? (node : Node) : Option Classification := do
  let r ← Record.ofNode? partNames node
  return {
    intent := .ofLabel (← r.withDefault "intent" "" Node.text?)
    complexity := .ofLabel (← r.withDefault "complexity" "" Node.text?)
    keyFeatures := ← r.withDefault "key_features" [] (Node.list? Node.text?)
    suggestedDependencies := ← r.withDefault "suggested_dependencies" [] (Node.list? Node.text?)
    estimatedLines := ← r.omissible "estimated_lines" Node.nat32? }

/-- The part of a text from its first opening to its last closing brace. -/
def objectSpan (text : List Char) : List Char :=
  let tail := text.dropWhile (· != '\x7b')
  (tail.reverse.dropWhile (· != '\x7d')).reverse

/-- The classification in a reply, if there is a readable one. -/
def parse (reply : String) : Option Classification :=
  (Node.parse (objectSpan reply.toList)).bind ofReply?

/-- The JSON value of a classification. -/
def toJson (c : Classification) : Value :=
  .obj [
    ("intent", c.intent.toJson),
    ("complexity", c.complexity.toJson),
    ("key_features", .list .str c.keyFeatures),
    ("suggested_dependencies", .list .str c.suggestedDependencies),
    ("estimated_lines", .option .nat c.estimatedLines)]

/-- Reads a classification with known names. -/
def ofNode? (node : Node) : Option Classification := do
  let r ← Record.ofNode? partNames node
  return {
    intent := ← r.required "intent" Intent.ofNode?
    complexity := ← r.required "complexity" Complexity.ofNode?
    keyFeatures := ← r.required "key_features" (Node.list? Node.text?)
    suggestedDependencies := ← r.required "suggested_dependencies" (Node.list? Node.text?)
    estimatedLines := ← r.optional "estimated_lines" Node.nat32? }

end Classification

end ArtifactPipeline
