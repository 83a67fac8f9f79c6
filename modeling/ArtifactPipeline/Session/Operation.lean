import ArtifactPipeline.Session.Basic

/-!
# Histories of a session

The operations on a session as calls that change it in place, and the calls as data, so that whole
histories of them can be run and spoken of.
-/

namespace ArtifactPipeline

open Time

/-- A call that changes a session in place and may break off. What it changed before that stays
changed. -/
abbrev SessionCall (α : Type) := EStateM Failure Session α

namespace SessionCall

/-- Breaks off if the session has ended. -/
def ensureMutable : SessionCall Unit := do
  let s ← get
  if s.status.isTerminal then throw (.frozen s.id s.status)

/-- Moves the session to another status: first the moment is recorded, then the status. -/
def transition (next : Status) (now : Instant) : SessionCall Unit := do
  let s ← get
  if s.status.canMoveTo next then
    modify fun s => { s with timeline := s.timeline.enter next now }
    modify ({ · with status := next })
  else throw (.invalidTransition s.status next)

/-- Ends the session as failed. -/
def fail (reason : String) (now : Instant) : SessionCall Unit := do
  transition .failed now
  modify ({ · with error := some reason })

/-- Replaces the component. -/
def setCode (code : String) : SessionCall Unit := do
  ensureMutable
  modify ({ · with code := some code })

/-- Replaces the verdict. -/
def setVerdict (verdict : Verdict) : SessionCall Unit := do
  ensureMutable
  modify ({ · with verdict := some verdict })

/-- Adds the tokens of a model call, and then their price. -/
def recordUsage (usage : TokenUsage) (cost : Float) : SessionCall Unit := do
  ensureMutable
  modify fun s => { s with usage := s.usage.add usage }
  modify fun s => { s with cost := s.cost + cost }

/-- Counts a repair if one is left, and tells whether it was counted. -/
def recordAttempt : SessionCall Bool := do
  let s ← get
  if s.status.isTerminal || s.attempts ≥ s.maxAttempts then return false
  modify fun s => { s with attempts := s.attempts + 1 }
  return true

end SessionCall

namespace Session

/-- A call of one of the operations on a session. -/
inductive Operation where
  | transition (next : Status)
  | fail (reason : String)
  | setCode (code : String)
  | setVerdict (verdict : Verdict)
  | recordUsage (usage : TokenUsage) (cost : Float)
  | recordAttempt
  deriving Repr

/-- What a call answers: nothing, or for an attempt whether it was granted. -/
inductive Answer where
  | done
  | attempt (granted : Bool)
  | refused (cause : Failure)
  deriving Repr, DecidableEq

/-- The call of an operation at some moment. -/
def Operation.call (now : Instant) : Operation → SessionCall Answer
  | transition next => do SessionCall.transition next now; return .done
  | fail reason => do SessionCall.fail reason now; return .done
  | setCode code => do SessionCall.setCode code; return .done
  | setVerdict verdict => do SessionCall.setVerdict verdict; return .done
  | recordUsage usage cost => do SessionCall.recordUsage usage cost; return .done
  | recordAttempt => return .attempt (← SessionCall.recordAttempt)

/-- Makes a call at some moment. The session is as the call left it, also if it broke off. -/
def perform (s : Session) (op : Operation) (now : Instant) : Answer × Session :=
  match op.call now s with
  | .ok answer s => (answer, s)
  | .error cause s => (.refused cause, s)

/-- The session after a history of calls. -/
def performAll (s : Session) (history : List (Operation × Instant)) : Session :=
  history.foldl (fun s (op, now) => (s.perform op now).2) s

end Session

end ArtifactPipeline
