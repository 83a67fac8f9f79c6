import ArtifactPipeline.Run.Flight
import ArtifactPipeline.Run.Generation
import ArtifactPipeline.Run.Planning
import ArtifactPipeline.Run.Validation

/-!
# The phases of a session

A session is opened and planned, a component is generated, and rounds of validation follow. A round
ends the session, or repairs the component and asks for another round. A failure of the store or the
model on which the next step depends ends the session as failed.
-/

namespace ArtifactPipeline

open Json

/-- What follows a round of validation. -/
inductive Round where
  /-- The component was repaired and has to be validated again. -/
  | again
  /-- The session has ended. -/
  | finished
  deriving Repr, DecidableEq

variable {σ π : Type}

/-- Opens a session for a request. -/
def Flight.start (config : Config) (request : ComponentRequest) (w : World σ π) : Flight σ π :=
  let maxAttempts := config.pipeline.maxAttempts
  let (id, w) := w.freshId
  let (time, w) := w.now
  let session := Session.new id request maxAttempts time
  let flight : Flight σ π := { run := { session }, world := (w.write (.createSession session)).2 }
  flight.log .info "Session created" (.obj [
    ("mood", request.mood.toJson),
    ("max_reflexion_attempts", .nat maxAttempts)])

namespace FlightWork

/-- Plans the session. -/
def plan [ModelService σ] (config : Config) : FlightWork σ π Unit := do
  advance .planning "Classifying request" .null
  let session := (← get).session
  let outcome ← onWorld (makePlan config session.prompt session.mood)
  step (·.recordUsage outcome.usage outcome.cost)
  let plan := outcome.plan
  modify (Flight.log .info "Plan ready" (.obj [
    ("intent", plan.intent.toJson),
    ("complexity", plan.complexity.toJson),
    ("tier", plan.tier.toJson),
    ("model", .str plan.modelId),
    ("estimated_tokens", .nat plan.estimatedTokens),
    ("similar_patterns", .nat plan.similarPatterns.length)]))
  modify fun f => f.withSession { f.session with plan := some plan }

/-- The plan of the session. -/
def currentPlan : FlightWork σ π Plan := fun f =>
  match f.session.plan with
  | some plan => .ok plan f
  | none => .error (.unplanned f.session.id) f

/-- Takes over a generated component. -/
def accept (generated : Generated) : FlightWork σ π Unit := do
  step (·.recordUsage generated.usage generated.cost)
  step (·.setCode generated.code)
  modify (Flight.log .info "Component generated" (.obj [
    ("lines", .nat (Text.lineCount generated.code.toList)),
    ("tokens", .nat generated.usage.total.toNat),
    ("model", .str generated.modelId)]))

/-- Generates the component in the given phase. -/
def produce [ModelService σ] (config : Config) (prompt : String) (phase : Status)
    (message : String) : FlightWork σ π Generated := do
  let plan ← currentPlan
  advance phase message (.obj [("model", .str plan.modelId)])
  let tenant := (← get).session.tenant
  let generated ← onWorld (generate config tenant plan prompt)
  accept generated
  return generated

/-- Publishes the component that passed and ends the session. That it could not be published is only
logged. -/
def complete [Publisher π] (code : String) : FlightWork σ π Unit := do
  modify fun f =>
    match f.world.publish f.session code with
    | (.ok name, world) => { f with world }.withSession { f.session with artifactId := some name }
    | (.error e, world) =>
      { f with world }.log .warn "Publishing failed" (.obj [("error", .str e.message)])
  let artifactId := (← get).session.artifactId
  advance .completed "Component accepted" (.obj [("artifact_id", .text? artifactId)])
  modify (Flight.countPatterns true)

/-- Ends the session as rejected. -/
def reject (message : String) (data : Value) : FlightWork σ π Unit := do
  advance .rejected message data
  modify (Flight.countPatterns false)

/-- Hands the session to a human and ends it as rejected. -/
def giveUp (verdict : Verdict) : FlightWork σ π Unit := do
  let attempts := (← get).session.attempts
  let escalated ← modifyGet fun f =>
    let (stored, world) := escalate f.session verdict f.world
    (stored, { f with world })
  reject "Repair budget exhausted, escalated to human review" (.obj [
    ("attempts", .nat attempts),
    ("escalated", .bool escalated)])

/-- Repairs the component. Without success the session ends as rejected. -/
def repair [ModelService σ] (config : Config) (code : String) (errors : List String) :
    FlightWork σ π Round := do
  let session := (← get).session
  let attempt := session.attempts + 1
  let maxAttempts := session.maxAttempts
  advance .reflexion "Repairing component" (.obj [
    ("attempt", .nat attempt),
    ("max_attempts", .nat maxAttempts)])
  let previous := (← get).run.previous
  let outcome ← modifyGet fun f =>
    let ((outcome, session), world) := attemptRepair config
      { code, errors, attempt, maxAttempts, previous } f.session f.world
    (outcome, { f with world }.withSession session)
  step (·.recordUsage outcome.usage outcome.cost)
  if outcome.success then
    modify fun f => { f with run := { f.run with previous := f.run.previous ++ [⟨code, errors⟩] } }
    step (·.setCode outcome.code)
    modify (Flight.log .info "Repair applied" (.obj [
      ("attempt", .nat attempt),
      ("explanation", .str outcome.explanation)]))
    return .again
  else
    reject "Repair failed" (.obj [
      ("attempt", .nat attempt),
      ("reason", .str outcome.explanation)])
    return .finished

/-- The details of a validation in the log. -/
def verdictData (verdict : Verdict) : Value :=
  .obj [
    ("security_score", .float verdict.score),
    ("failed_rules", .list .str verdict.failed),
    ("errors", .list .str verdict.errorMessages),
    ("warnings", .nat verdict.warnings.length)]

/-- Validates the component, then completes, rejects or repairs it. -/
def round [ModelService σ] [Publisher π] (config : Config) : FlightWork σ π Round := do
  let attempts := (← get).session.attempts
  advance .validating "Validating component" (.obj [("attempt", .nat attempts)])
  let session := (← get).session
  let code := session.code.getD ""
  let verdict ← onWorld (validate code (some session.id) session.tenant)
  step (·.setVerdict verdict)
  if verdict.isValid then
    modify (Flight.log .info "Validation passed" (verdictData verdict))
    complete code
    return .finished
  else
    modify (Flight.log .warn "Validation failed" (verdictData verdict))
    let session := (← get).session
    if isExhausted session.attempts session.maxAttempts then
      giveUp verdict
      return .finished
    else repair config code verdict.errorMessages

/-- Ends the session as failed. -/
def fail (failure : Failure) : FlightWork σ π Unit := do
  let phase := (← get).session.status
  let time ← now
  step (·.fail failure.message time)
  modify (Flight.log .error ("Failed during " ++ phase.label) (.obj [
    ("error", .str failure.message),
    ("phase", phase.toJson)]))
  modify Flight.persist

end FlightWork

end ArtifactPipeline
