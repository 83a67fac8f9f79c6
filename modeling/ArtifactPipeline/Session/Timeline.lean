import ArtifactPipeline.Time.Stamp
import ArtifactPipeline.Session.Id
import ArtifactPipeline.Session.Status
import ArtifactPipeline.Json.Record
import ArtifactPipeline.Json.Value

/-!
# The timeline of a session

When each phase of a session began, and how the status that is entered decides which of the moments
is recorded.
-/

namespace ArtifactPipeline

open Json Time

/-- Reads a point in time. -/
def Time.Instant.ofNode? (node : Node) : Option Instant := node.text?.bind Instant.ofText?

/-- The JSON value of a point in time. -/
def Time.Instant.toJson (t : Instant) : Value := .str t.toText

/-- Reads a session identifier. -/
def SessionId.ofNode? (node : Node) : Option SessionId := node.text?.bind SessionId.ofText?

/-- The JSON value of a session identifier. -/
def SessionId.toJson (id : SessionId) : Value := .str id.toText

/-- When the phases of a session began. -/
structure Timeline where
  created : Instant
  planning : Option Instant := none
  generation : Option Instant := none
  /-- When the first validation began. -/
  validation : Option Instant := none
  /-- When the session ended. -/
  finished : Option Instant := none
  deriving Repr, DecidableEq

namespace Timeline

/-- Records that a session enters a status. Only the first validation is recorded. -/
def enter (t : Timeline) (next : Status) (now : Instant) : Timeline :=
  match next with
  | .planning => { t with planning := some now }
  | .generating | .streaming => { t with generation := some now }
  | .validating => { t with validation := some (t.validation.getD now) }
  | .completed | .rejected | .failed => { t with finished := some now }
  | .pending | .reflexion => t

/-- The milliseconds that the session took, once it has ended. -/
def durationMs (t : Timeline) : Option Int :=
  t.finished.map t.created.millisUntil

/-- The JSON value of a timeline. -/
def toJson (t : Timeline) : Value :=
  .obj [
    ("created_at", t.created.toJson),
    ("planning_started_at", .option Instant.toJson t.planning),
    ("generation_started_at", .option Instant.toJson t.generation),
    ("validation_started_at", .option Instant.toJson t.validation),
    ("finished_at", .option Instant.toJson t.finished)]

/-- The names of the parts of a timeline. -/
def partNames : List String :=
  ["created_at", "planning_started_at", "generation_started_at", "validation_started_at",
   "finished_at"]

/-- Reads a timeline. -/
def ofNode? (node : Node) : Option Timeline := do
  let r ← Record.ofNode? partNames node
  return {
    created := ← r.required "created_at" Instant.ofNode?
    planning := ← r.optional "planning_started_at" Instant.ofNode?
    generation := ← r.optional "generation_started_at" Instant.ofNode?
    validation := ← r.optional "validation_started_at" Instant.ofNode?
    finished := ← r.optional "finished_at" Instant.ofNode? }

end Timeline

end ArtifactPipeline
