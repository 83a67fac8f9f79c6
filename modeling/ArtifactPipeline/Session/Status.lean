import ArtifactPipeline.Json.Record
import ArtifactPipeline.Json.Value

/-!
# The state machine of a session

A session is planned, generated and validated, and repaired while it does not pass. It ends
completed, rejected or failed, and no session that has ended changes again. A failure is possible
from every status before that.
-/

namespace ArtifactPipeline

/-- Where a session stands. -/
inductive Status where
  /-- Accepted, nothing has run yet. -/
  | pending
  | planning
  /-- The component is generated in one piece. -/
  | generating
  /-- The component is generated and handed out in chunks. -/
  | streaming
  | validating
  /-- A component that did not pass is repaired. -/
  | reflexion
  /-- The component passed. -/
  | completed
  /-- The component does not pass after all repairs. -/
  | rejected
  /-- The pipeline itself broke down. -/
  | failed
  deriving Repr, DecidableEq, Inhabited

namespace Status

/-- Every status. -/
def all : List Status :=
  [pending, planning, generating, streaming, validating, reflexion, completed, rejected, failed]

/-- The name of a status. -/
def label : Status → String
  | pending => "pending"
  | planning => "planning"
  | generating => "generating"
  | streaming => "streaming"
  | validating => "validating"
  | reflexion => "reflexion"
  | completed => "completed"
  | rejected => "rejected"
  | failed => "failed"

/-- Whether a session has ended. -/
def isTerminal : Status → Bool
  | completed | rejected | failed => true
  | _ => false

/-- Whether a session may move from the first status to the second. -/
def canMoveTo : Status → Status → Bool
  | pending, next => next == planning || next == failed
  | planning, next => next == generating || next == streaming || next == failed
  | generating, next | streaming, next => next == validating || next == failed
  | validating, next =>
    next == completed || next == rejected || next == reflexion || next == failed
  | reflexion, next => next == validating || next == rejected || next == failed
  | completed, _ | rejected, _ | failed, _ => false

/-- The JSON value of a status. -/
def toJson (s : Status) : Json.Value := .str s.label

/-- Reads the name of a status. -/
def ofNode? : Json.Node → Option Status := Json.Node.oneOf? all label

end Status

end ArtifactPipeline
