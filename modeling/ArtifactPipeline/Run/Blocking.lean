import ArtifactPipeline.Run.Phase

/-!
# Running a session to its end

The blocking way of working on a request: all phases are run one after another, and the session is
reported with its log when it has ended.
-/

namespace ArtifactPipeline

/-- A session that has ended and its log. -/
structure SessionReport where
  session : Session
  logs : List LogEntry

variable {σ π : Type}

namespace FlightWork

/-- Runs rounds of validation until the session has ended, at most the given number of them. -/
def settle [ModelService σ] [Publisher π] (config : Config) : (rounds : Nat) → FlightWork σ π Unit
  | 0 => pure ()
  | rounds + 1 => do
    match ← round config with
    | .finished => pure ()
    | .again => settle config rounds

/-- Plans, generates and validates. A round that asks for another one has used up an attempt, so
there is at most one round more than there are attempts. -/
def drive [ModelService σ] [Publisher π] (config : Config) (request : ComponentRequest) :
    FlightWork σ π Unit := do
  plan config
  let _ ← produce config request.prompt .generating "Generating component"
  let session := (← get).session
  settle config (session.maxAttempts - session.attempts + 1)

/-- Plans, generates and validates, and ends the session as failed if that fails. -/
def runToEnd [ModelService σ] [Publisher π] (config : Config) (request : ComponentRequest) :
    FlightWork σ π Unit := fun f =>
  match drive config request f with
  | .ok _ f => .ok () f
  | .error e f => fail e f

end FlightWork

/-- Works on a request until its session has ended. A failure on the way ends the session as failed
and is no failure of the work; the work fails only if the session cannot be ended. -/
def execute [ModelService σ] [Publisher π] (config : Config) (request : ComponentRequest) :
    Work σ π SessionReport := fun w =>
  match FlightWork.runToEnd config request (Flight.start config request w) with
  | .ok _ f => .ok ⟨f.session, f.run.history⟩ f.world
  | .error e f => .error e f.world

end ArtifactPipeline
