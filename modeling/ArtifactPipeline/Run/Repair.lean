import ArtifactPipeline.Component.Extract
import ArtifactPipeline.Prompt.Template
import ArtifactPipeline.Prompt.Text
import ArtifactPipeline.World

/-!
# Repair

A component that was rejected is handed back to the model with the reasons and with the attempts
made so far. An attempt counts once the model has returned code for it. When no attempt is left, the
session is handed to a human.
-/

namespace ArtifactPipeline

open Text

/-- A repaired component that did not pass. -/
structure Attempt where
  code : String
  /-- Why the component was rejected. -/
  errors : List String
  deriving Repr, DecidableEq

/-- What is asked of one repair. -/
structure RepairTask where
  code : String
  errors : List String
  /-- The number of the attempt, from 1. -/
  attempt : Nat
  maxAttempts : Nat
  previous : List Attempt
  deriving Repr, DecidableEq

/-- The outcome of one repair. -/
structure RepairOutcome where
  success : Bool
  /-- The repaired code, or the code as it was. -/
  code : String
  /-- What the model said about the repair, or why there is none. -/
  explanation : String
  usage : TokenUsage := {}
  /-- The estimated price in US dollars. -/
  cost : Float := 0.0
  deriving Repr

/-- Whether no attempt is left. -/
def isExhausted (attempts maxAttempts : Nat) : Bool := attempts ≥ maxAttempts

namespace RepairTask

/-- The list of earlier attempts in a prompt. -/
def previousText (previous : List Attempt) : String :=
  if previous.isEmpty then "None"
  else join "\n" (previous.mapIdx fun i a =>
    "Attempt " ++ toString (i + 1) ++ ": " ++ join "; " a.errors)

/-- The values for the placeholders of the repair prompt. -/
def values (t : RepairTask) : List (String × String) := [
  ("attempt", toString t.attempt),
  ("max_attempts", toString t.maxAttempts),
  ("errors", join "\n" (t.errors.map ("- " ++ ·))),
  ("previous_attempts", previousText t.previous),
  ("code", t.code)]

/-- The instructions for a repair. -/
def prompt (t : RepairTask) : String := Template.render Prompt.repair t.values

/-- The outcome when nothing was repaired. -/
def unsolved (t : RepairTask) (explanation : String) : RepairOutcome where
  success := false
  code := t.code
  explanation

/-- The request for a repair. It goes to the planned model, or to the capable one if there is no
plan. -/
def request (config : Config) (t : RepairTask) (plan : Option Plan) : ModelRequest where
  modelId := (plan.map (·.modelId)).getD config.models.capableModel
  messages := [⟨.system, t.prompt⟩]
  temperature := config.pipeline.repairTemperature
  maxTokens := (plan.map (·.estimatedTokens)).getD 8000

end RepairTask

/-- What a reply to a repair request gives for a session. -/
def settleRepair (t : RepairTask) (response : ModelResponse) (session : Session) :
    RepairOutcome × Session :=
  let tier := (session.plan.map (·.tier)).getD .capable
  let cost := tier.cost response.usage.total
  let code := Component.extractCode response.content.toList
  if code.isEmpty then
    ({ t.unsolved "Model returned no code" with usage := response.usage, cost }, session)
  else
    match session.recordAttempt? with
    | none =>
      ({ t.unsolved "Attempt budget exhausted" with usage := response.usage, cost }, session)
    | some session =>
      ({ success := true
         code := String.ofList code
         explanation := String.ofList (Component.leadingProse response.content.toList)
         usage := response.usage
         cost }, session)

variable {σ π : Type}

/-- Asks the model for a repair. -/
def attemptRepair [ModelService σ] (config : Config) (t : RepairTask) (session : Session)
    (w : World σ π) : (RepairOutcome × Session) × World σ π :=
  match w.invoke (t.request config session.plan) with
  | (.ok response, w) => (settleRepair t response session, w)
  | (.error e, w) => ((t.unsolved e.message, session), w)

/-- Hands a session to a human and tells whether the record could be stored. -/
def escalate (session : Session) (verdict : Verdict) (w : World σ π) : Bool × World σ π :=
  let (time, w) := w.now
  w.write (.createReview {
    session := session.id
    tenant := session.tenant
    reason := join ", " verdict.failed
    attempts := session.attempts
    code := session.code
    time })

end ArtifactPipeline
