import ArtifactPipeline.Run.Repair

/-!
# Sessions in flight

A session that is being worked on, with its log so far and with the repairs that did not pass. A
session moves from status to status; each move is logged and the session is stored after it. Neither
a lost log entry nor a session that could not be stored stops the work.
-/

namespace ArtifactPipeline

open Json

/-- A session that is being worked on. -/
structure SessionRun where
  session : Session
  /-- The components whose repair was tried, oldest first. -/
  previous : List Attempt := []
  /-- The log so far. -/
  history : List LogEntry := []
  /-- The end of the log that has not been handed out. -/
  pending : List LogEntry := []

/-- A session that is being worked on and the world around it. -/
structure Flight (σ π : Type) where
  run : SessionRun
  world : World σ π

variable {σ π α : Type}

namespace SessionRun

/-- Adds an entry to the log. -/
def record (r : SessionRun) (entry : LogEntry) : SessionRun :=
  { r with history := r.history ++ [entry], pending := r.pending ++ [entry] }

/-- Hands out the entries that have not been handed out. -/
def drain (r : SessionRun) : List LogEntry × SessionRun :=
  (r.pending, { r with pending := [] })

end SessionRun

namespace Flight

/-- The session. -/
def session (f : Flight σ π) : Session := f.run.session

/-- The flight with another session. -/
def withSession (f : Flight σ π) (session : Session) : Flight σ π :=
  { f with run := { f.run with session } }

/-- Writes a log entry for the current phase. -/
def log (level : LogLevel) (message : String) (data : Value) (f : Flight σ π) : Flight σ π :=
  let (time, w) := f.world.now
  let entry : LogEntry :=
    { session := f.session.id, phase := f.session.status, level, message, data, time }
  { run := f.run.record entry, world := (w.write (.appendLog entry)).2 }

/-- Stores the session as it is now. -/
def persist (f : Flight σ π) : Flight σ π :=
  { f with world := (f.world.write (.updateSession f.session)).2 }

/-- Counts one use of each pattern that the plan refers to. -/
def countPatterns (success : Bool) (f : Flight σ π) : Flight σ π :=
  let references := (f.session.plan.map (·.similarPatterns)).getD []
  { f with
    world := references.foldl
      (fun w reference => (w.write (.recordPatternUsage reference.id success)).2) f.world }

end Flight

/-- Work on a session in flight, which may fail. -/
abbrev FlightWork (σ π : Type) := EStateM Failure (Flight σ π)

namespace FlightWork

/-- Does work on the world. -/
def onWorld (work : Work σ π α) : FlightWork σ π α := fun f =>
  match work f.world with
  | .ok a world => .ok a { f with world }
  | .error e world => .error e { f with world }

/-- Takes a step of the session, which may be refused. -/
def step (change : Session → Except Failure Session) : FlightWork σ π Unit := fun f =>
  match change f.session with
  | .ok session => .ok () (f.withSession session)
  | .error e => .error e f

/-- Reads the clock. -/
def now : FlightWork σ π Time.Instant := fun f =>
  let (time, world) := f.world.now
  .ok time { f with world }

/-- Moves the session to another status, then logs the move and stores the session. -/
def advance (next : Status) (message : String) (data : Value) : FlightWork σ π Unit := do
  let time ← now
  step (·.transition next time)
  modify (Flight.log .info message data)
  modify Flight.persist

end FlightWork

end ArtifactPipeline
