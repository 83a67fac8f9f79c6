import ArtifactPipeline.Session.Basic

/-!
# The log of a session

Entries that tell what happened in which phase, with the details as a JSON value.
-/

namespace ArtifactPipeline

open Json Time

/-- How serious an entry is. -/
inductive LogLevel where
  | info
  | warn
  | error
  deriving Repr, DecidableEq, Inhabited

namespace LogLevel

/-- Every level. -/
def all : List LogLevel := [info, warn, error]

/-- The name of a level. -/
def label : LogLevel → String
  | info => "info"
  | warn => "warn"
  | error => "error"

/-- The JSON value of a level. -/
def toJson (l : LogLevel) : Value := .str l.label

/-- Reads the name of a level. -/
def ofNode? : Node → Option LogLevel := Node.oneOf? all label

end LogLevel

/-- An entry in the log of a session. -/
structure LogEntry where
  session : SessionId
  /-- The status of the session when the entry was written. -/
  phase : Status
  level : LogLevel
  message : String
  /-- The details. -/
  data : Value
  time : Instant
  deriving Repr

namespace LogEntry

/-- The JSON value of an entry. -/
def toJson (e : LogEntry) : Value :=
  .obj [
    ("session_id", e.session.toJson),
    ("phase", e.phase.toJson),
    ("level", e.level.toJson),
    ("message", .str e.message),
    ("data", e.data),
    ("timestamp", e.time.toJson)]

/-- The names of the parts of an entry. -/
def partNames : List String :=
  ["session_id", "phase", "level", "message", "data", "timestamp"]

/-- Reads an entry. Its details may be nested less than `depth` deep. -/
def ofNode? (depth : Nat) (node : Node) : Option LogEntry := do
  let r ← Record.ofNode? partNames node
  return {
    session := ← r.required "session_id" SessionId.ofNode?
    phase := ← r.required "phase" Status.ofNode?
    level := ← r.required "level" LogLevel.ofNode?
    message := ← r.required "message" Node.text?
    data := ← r.required "data" (Node.value? depth)
    time := ← r.required "timestamp" Instant.ofNode? }

end LogEntry

end ArtifactPipeline
