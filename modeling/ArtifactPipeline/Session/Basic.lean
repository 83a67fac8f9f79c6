import ArtifactPipeline.Model.Message
import ArtifactPipeline.Plan.Basic
import ArtifactPipeline.Policy.Verdict
import ArtifactPipeline.Session.Request
import ArtifactPipeline.Session.Timeline

/-!
# Sessions

A session is the unit of work for one request. Its operations either succeed or leave it as it was,
and none of them changes a session that has ended.
-/

namespace ArtifactPipeline

open Json Time

/-- The work on one request. -/
structure Session where
  id : SessionId
  tenant : String
  user : String
  prompt : String
  mood : Mood
  /-- The plan, once planning has finished. -/
  plan : Option Plan := none
  status : Status := .pending
  /-- The verdict on the component that was validated last. -/
  verdict : Option Verdict := none
  /-- The repairs made so far. -/
  attempts : Nat := 0
  /-- The most repairs that may be made. -/
  maxAttempts : Nat
  /-- The component generated or repaired last. -/
  code : Option String := none
  /-- The name under which the component was published. -/
  artifactId : Option String := none
  /-- The tokens of all model calls. -/
  usage : TokenUsage := {}
  /-- The estimated price of all model calls in US dollars. -/
  cost : Float := 0.0
  timeline : Timeline
  /-- Why the session failed. -/
  error : Option String := none
  deriving Repr

namespace Session

/-- A new session for a request. -/
def new (id : SessionId) (request : ComponentRequest) (maxAttempts : Nat) (now : Instant) :
    Session where
  id
  tenant := request.tenant
  user := request.user
  prompt := request.prompt
  mood := request.mood
  maxAttempts
  timeline := { created := now }

/-- Moves a session to another status. -/
def transition (s : Session) (next : Status) (now : Instant) : Except Failure Session :=
  if s.status.canMoveTo next then
    .ok { s with status := next, timeline := s.timeline.enter next now }
  else .error (.invalidTransition s.status next)

/-- Ends a session as failed. -/
def fail (s : Session) (reason : String) (now : Instant) : Except Failure Session :=
  (s.transition .failed now).map ({ · with error := some reason })

/-- Changes a session that has not ended. -/
def modify (s : Session) (change : Session → Session) : Except Failure Session :=
  if s.status.isTerminal then .error (.frozen s.id s.status) else .ok (change s)

/-- Replaces the component. -/
def setCode (s : Session) (code : String) : Except Failure Session :=
  s.modify ({ · with code := some code })

/-- Replaces the verdict. -/
def setVerdict (s : Session) (verdict : Verdict) : Except Failure Session :=
  s.modify ({ · with verdict := some verdict })

/-- Adds the tokens of a model call and their price. -/
def recordUsage (s : Session) (usage : TokenUsage) (cost : Float) : Except Failure Session :=
  s.modify fun s => { s with usage := s.usage.add usage, cost := s.cost + cost }

/-- Counts a repair; there is no result if the session has ended or no repair is left. -/
def recordAttempt? (s : Session) : Option Session :=
  if s.status.isTerminal || s.attempts ≥ s.maxAttempts then none
  else some { s with attempts := s.attempts + 1 }

/-- The JSON value of a session. -/
def toJson (s : Session) : Value :=
  .obj [
    ("id", s.id.toJson),
    ("tenant_id", .str s.tenant),
    ("user_id", .str s.user),
    ("prompt", .str s.prompt),
    ("mood", s.mood.toJson),
    ("plan", .option Plan.toJson s.plan),
    ("status", s.status.toJson),
    ("verdict", .option Verdict.toJson s.verdict),
    ("reflexion_attempts", .nat s.attempts),
    ("max_reflexion_attempts", .nat s.maxAttempts),
    ("final_code", .text? s.code),
    ("artifact_id", .text? s.artifactId),
    ("tokens_used", s.usage.toJson),
    ("estimated_cost", .float s.cost),
    ("timestamps", s.timeline.toJson),
    ("error", .text? s.error)]

/-- The names of the parts of a session. -/
def partNames : List String :=
  ["id", "tenant_id", "user_id", "prompt", "mood", "plan", "status", "verdict",
   "reflexion_attempts", "max_reflexion_attempts", "final_code", "artifact_id", "tokens_used",
   "estimated_cost", "timestamps", "error"]

/-- Reads a session. -/
def ofNode? (node : Node) : Option Session := do
  let r ← Record.ofNode? partNames node
  return {
    id := ← r.required "id" SessionId.ofNode?
    tenant := ← r.required "tenant_id" Node.text?
    user := ← r.required "user_id" Node.text?
    prompt := ← r.required "prompt" Node.text?
    mood := ← r.required "mood" Mood.ofNode?
    plan := ← r.optional "plan" Plan.ofNode?
    status := ← r.required "status" Status.ofNode?
    verdict := ← r.optional "verdict" Verdict.ofNode?
    attempts := ← r.required "reflexion_attempts" Node.nat32?
    maxAttempts := ← r.required "max_reflexion_attempts" Node.nat32?
    code := ← r.optional "final_code" Node.text?
    artifactId := ← r.optional "artifact_id" Node.text?
    usage := ← r.required "tokens_used" TokenUsage.ofNode?
    cost := ← r.required "estimated_cost" Node.float?
    timeline := ← r.required "timestamps" Timeline.ofNode?
    error := ← r.optional "error" Node.text? }

end Session

end ArtifactPipeline
