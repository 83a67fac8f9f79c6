import ArtifactPipeline.Component.Extract
import ArtifactPipeline.Prompt.Template
import ArtifactPipeline.Prompt.Text
import ArtifactPipeline.World

/-!
# Generation

The component is generated with one call of the planned model. The instructions name the packages
that the tenant may import, the steps and features of the plan, and quote the first similar pattern
whose code has been kept.
-/

namespace ArtifactPipeline

open Text

/-- A generated component. -/
structure Generated where
  /-- The code in the reply. -/
  code : String
  /-- The whole reply. -/
  raw : String
  usage : TokenUsage
  /-- The model that served the call. -/
  modelId : String
  /-- The estimated price in US dollars. -/
  cost : Float
  deriving Repr

variable {σ π : Type}

/-- The items of a list, numbered from 1, one per line. -/
def numbered (items : List String) : String :=
  join "\n" (items.mapIdx fun i item => toString (i + 1) ++ ". " ++ item)

/-- The items of a list with a dash before each, one per line. -/
def bulleted (items : List String) : String :=
  join "\n" (items.map ("- " ++ ·))

/-- The values for the placeholders of the generation prompt. -/
def generationValues (config : Config) (allowlist : List String) (plan : Plan) :
    List (String × String) := [
  ("allowed_imports", join ", " allowlist),
  ("max_lines", toString config.validation.maxLines),
  ("intent", plan.intent.label),
  ("complexity", plan.complexity.label),
  ("steps", numbered plan.steps),
  ("features",
    if plan.keyFeatures.isEmpty then "- Whatever the request describes"
    else bulleted plan.keyFeatures)]

/-- The beginning of the code of the first referenced pattern that has any. A pattern that cannot
be loaded is passed over. -/
def referenceSnippet (chars : Nat) : List PatternReference → World σ π → Option String × World σ π
  | [], w => (none, w)
  | reference :: rest, w =>
    let (result, w) := w.call (.getPattern reference.id)
    let code := match result with
      | .ok (some pattern) => pattern.code
      | _ => none
    match code with
    | some code => (some (String.ofList (code.toList.take chars)), w)
    | none => referenceSnippet chars rest w

/-- What is added to the instructions when there is a reference component. -/
def withSnippet (instructions : String) : Option String → String
  | none => instructions
  | some snippet =>
    instructions ++ "\n\nReference component for style guidance only:\n```tsx\n" ++ snippet ++
      "\n```"

/-- The instructions for generating the component of a plan. -/
def generationPrompt (config : Config) (tenant : String) (plan : Plan) : Work σ π String := do
  let allowlist ← Work.store (.allowlist tenant)
  let instructions := Template.render Prompt.generation (generationValues config allowlist plan)
  let snippet ← modifyGet (referenceSnippet config.pipeline.snippetChars plan.similarPatterns)
  return withSnippet instructions snippet

/-- Generates the component of a plan. -/
def generate [ModelService σ] (config : Config) (tenant : String) (plan : Plan)
    (prompt : String) : Work σ π Generated := do
  let instructions ← generationPrompt config tenant plan
  let response ← Work.invoke {
    modelId := plan.modelId
    messages := [⟨.system, instructions⟩, ⟨.user, prompt⟩]
    temperature := config.pipeline.generationTemperature
    maxTokens := plan.estimatedTokens }
  return {
    code := String.ofList (Component.extractCode response.content.toList)
    raw := response.content
    usage := response.usage
    modelId := response.modelId
    cost := plan.tier.cost response.usage.total }

end ArtifactPipeline
