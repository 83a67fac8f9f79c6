import ArtifactPipeline.Session.Basic

/-!
# Publishing

A publisher takes the code of a session and gives back the name of the artifact. The publisher in
memory keeps what it was given and may be switched off.
-/

namespace ArtifactPipeline

/-- A place where components are published. -/
class Publisher (π : Type) where
  /-- Publishes the code of a session and gives the name of the artifact. -/
  publish : Session → String → π → Except Failure String × π

/-- A published component. -/
structure Artifact where
  name : String
  session : SessionId
  code : String
  deriving Repr, DecidableEq

/-- A publisher that keeps components in memory. -/
structure MemoryPublisher where
  artifacts : List Artifact := []
  offline : Bool := false
  /-- The name of the artifact that is published after a number of others. -/
  names : Nat → String

namespace MemoryPublisher

/-- Publishes the code of a session. -/
def publish (session : Session) (code : String) (p : MemoryPublisher) :
    Except Failure String × MemoryPublisher :=
  if p.offline then (.error (.publish "memory publisher is offline"), p)
  else
    let name := p.names p.artifacts.length
    (.ok name, { p with artifacts := p.artifacts ++ [⟨name, session.id, code⟩] })

/-- What is published is kept in memory. -/
instance : Publisher MemoryPublisher where
  publish := publish

/-- The code that was published first for a session. -/
def codeOf? (p : MemoryPublisher) (id : SessionId) : Option String :=
  (p.artifacts.find? (·.session == id)).map (·.code)

end MemoryPublisher

end ArtifactPipeline
