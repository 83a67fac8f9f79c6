import ArtifactPipeline.Failure
import ArtifactPipeline.Plan.Intent

/-!
# Requests for components

What a user asks for, on behalf of which tenant and in which mood.
-/

namespace ArtifactPipeline

open Json

/-- The tone that a user asks for. -/
inductive Mood where
  | balanced
  | focused
  | exploratory
  deriving Repr, DecidableEq, Inhabited

namespace Mood

/-- Every mood. -/
def all : List Mood := [balanced, focused, exploratory]

/-- The name of a mood. -/
def label : Mood → String
  | balanced => "balanced"
  | focused => "focused"
  | exploratory => "exploratory"

/-- The mood that a user names, in any case and with any surrounding white space. -/
def ofLabel (label : String) : Except Failure Mood :=
  let name := normalizeLabel label
  match all.find? (·.label == name) with
  | some mood => .ok mood
  | none => .error (.config ("unknown mood: " ++ name))

/-- The JSON value of a mood. -/
def toJson (m : Mood) : Value := .str m.label

/-- Reads the exact name of a mood. -/
def ofNode? : Node → Option Mood := Node.oneOf? all label

end Mood

/-- A request for one component. -/
structure ComponentRequest where
  tenant : String
  user : String
  /-- What the component should do. -/
  prompt : String
  mood : Mood := .balanced
  deriving Repr, DecidableEq

namespace ComponentRequest

/-- The JSON value of a request. -/
def toJson (r : ComponentRequest) : Value :=
  .obj [
    ("tenant_id", .str r.tenant),
    ("user_id", .str r.user),
    ("prompt", .str r.prompt),
    ("mood", r.mood.toJson)]

/-- Reads a request. -/
def ofNode? (node : Node) : Option ComponentRequest := do
  let r ← Record.ofNode? ["tenant_id", "user_id", "prompt", "mood"] node
  return {
    tenant := ← r.required "tenant_id" Node.text?
    user := ← r.required "user_id" Node.text?
    prompt := ← r.required "prompt" Node.text?
    mood := ← r.withDefault "mood" .balanced Mood.ofNode? }

end ComponentRequest

end ArtifactPipeline
