import ArtifactPipeline.Proofs.Runs

/-!
# One run for both ways of working

The two ways of working on a request differ in the phase in which the component is generated and in
the words that announce it. Here both are one program with that phase as a parameter. The blocking
way is that program as it stands; a stream takes it apart into stages.
-/

namespace ArtifactPipeline

variable {σ π : Type}

namespace Entry

/-- The phase in which the component is generated. -/
def phase : Entry → Status
  | blocking => .generating
  | streaming => .streaming

/-- What the log says when the component is about to be generated. -/
def announcement : Entry → String
  | blocking => "Generating component"
  | streaming => "Streaming component"

/-- A planned session moves to the phase of its way. -/
theorem canMoveTo_phase (entry : Entry) : Status.planning.canMoveTo entry.phase = true := by
  cases entry <;> rfl

/-- The first validation follows the phase in which the component is generated. -/
theorem phase_canMoveTo (entry : Entry) : entry.phase.canMoveTo .validating = true := by
  cases entry <;> rfl

/-- The phase in which a component is generated is not the end. -/
theorem phase_isTerminal (entry : Entry) : entry.phase.isTerminal = false := by
  cases entry <;> rfl

/-- There are two phases in which a component can be generated. -/
theorem phase_eq (entry : Entry) : entry.phase = .generating ∨ entry.phase = .streaming := by
  cases entry <;> simp [phase]

end Entry

namespace FlightWork

/-- Does work on a session, and ends the session as failed if that fails. -/
def orFail (work : FlightWork σ π Unit) : FlightWork σ π Unit := fun f =>
  match work f with
  | .ok _ f => .ok () f
  | .error e f => fail e f

/-- Work that succeeds is left as it is. -/
theorem orFail_ok {work : FlightWork σ π Unit} {f f' : Flight σ π} (h : work f = .ok () f') :
    orFail work f = .ok () f' := by
  rw [orFail, h]

/-- Work that breaks off fails the session. -/
theorem orFail_error {work : FlightWork σ π Unit} {f f' : Flight σ π} {e : Failure}
    (h : work f = .error e f') : orFail work f = fail e f' := by
  rw [orFail, h]

variable [ModelService σ] [Publisher π]

/-- Plans, generates in the phase of a way of working, and validates. -/
def driveAs (entry : Entry) (config : Config) (request : ComponentRequest) :
    FlightWork σ π Unit := do
  plan config
  let _ ← produce config request.prompt entry.phase entry.announcement
  let session := (← get).session
  settle config (session.maxAttempts - session.attempts + 1)

/-- Plans, generates and validates, and ends the session as failed if that fails. -/
def runAs (entry : Entry) (config : Config) (request : ComponentRequest) :
    FlightWork σ π Unit := orFail (driveAs entry config request)

/-- The blocking way is the common program with its own phase. -/
theorem runToEnd_eq (config : Config) (request : ComponentRequest) :
    (runToEnd config request : FlightWork σ π Unit) = runAs .blocking config request := rfl

end FlightWork

end ArtifactPipeline
