import ArtifactPipeline.Session.Id
import ArtifactPipeline.Session.Status

/-!
# Failures

The causes for which an operation of the pipeline fails, and the wording of each.
-/

namespace ArtifactPipeline

/-- Why an operation failed. -/
inductive Failure where
  /-- A file could not be read or written. -/
  | io (reason : String)
  /-- A network request failed. -/
  | request (reason : String)
  /-- A JSON text is malformed or does not describe the value that was expected. -/
  | json (reason : String)
  /-- A configuration text is malformed or does not describe a configuration. -/
  | toml (reason : String)
  /-- A setting is invalid or missing. -/
  | config (reason : String)
  /-- A model could not answer. -/
  | provider (reason : String)
  /-- There is no key for a model service. -/
  | missingApiKey (name : String)
  /-- A model answered something that cannot be used. -/
  | invalidResponse (reason : String)
  /-- A model did not answer in time. -/
  | timeout (seconds : Nat)
  /-- The store failed. -/
  | store (reason : String)
  /-- The artifact could not be published. -/
  | publish (reason : String)
  /-- The state machine has no such edge. -/
  | invalidTransition (current next : Status)
  /-- The session has ended. -/
  | frozen (id : SessionId) (status : Status)
  /-- The session has not been planned. -/
  | unplanned (id : SessionId)
  | other (reason : String)
  deriving Repr, DecidableEq, Inhabited

namespace Failure

/-- The wording of a failure. -/
def message : Failure → String
  | io reason => "IO error: " ++ reason
  | request reason => "HTTP request failed: " ++ reason
  | json reason => "JSON serialization error: " ++ reason
  | toml reason => "TOML deserialization error: " ++ reason
  | config reason => "Configuration error: " ++ reason
  | provider reason => "Provider error: " ++ reason
  | missingApiKey name => "API key not found: " ++ name
  | invalidResponse reason => "Invalid response from provider: " ++ reason
  | timeout seconds => "Model call timed out after " ++ toString seconds ++ "s"
  | store reason => "Store error: " ++ reason
  | publish reason => "Publish error: " ++ reason
  | invalidTransition current next =>
    "Invalid session transition: " ++ current.label ++ " -> " ++ next.label
  | frozen id status =>
    "session " ++ id.toText ++ " is " ++ status.label ++ " and can no longer change"
  | unplanned id => "session " ++ id.toText ++ " has no plan"
  | other reason => reason

/-- Whether the operation may succeed when it is tried again. -/
def isRetryable : Failure → Bool
  | request _ | provider _ | timeout _ => true
  | _ => false

end Failure

end ArtifactPipeline
