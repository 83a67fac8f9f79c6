import ArtifactPipeline.Config.Basic
import ArtifactPipeline.Model.Service
import ArtifactPipeline.Policy.Cache
import ArtifactPipeline.Store.Memory
import ArtifactPipeline.Store.Publisher

/-!
# The world of the pipeline

The pipeline works with a store, a model service, a publisher, a clock and a supply of identifiers.
Every call that reaches one of the first three is written into a journal, and the store may be out
of order for some of the calls. Work is a function on the world that may fail; what it did before it
failed stays done.
-/

namespace ArtifactPipeline

open Time

/-- Something that the pipeline did to the world outside of it. -/
inductive Effect where
  /-- A call of the store, and why it failed if it did. -/
  | store (call : StoreCall) (failure : Option StoreError)
  /-- A call of the model. -/
  | model (request : ModelRequest) (result : Except Failure ModelResponse)
  /-- The code of a session was handed to the publisher. -/
  | publish (session : Session) (code : String) (result : Except Failure String)

namespace Effect

/-- Whether the effect is a call of a method of the store. -/
def isCallOf (method : StoreMethod) : Effect → Bool
  | store call _ => call.method == method
  | _ => false

end Effect

/-- The world of the pipeline, with a model service `σ` and a publisher `π`. -/
structure World (σ π : Type) where
  store : MemoryStore
  /-- Whether a method of the store is out of order for its call with a number, counted from 0. -/
  faults : StoreMethod → Nat → Bool
  model : σ
  publisher : π
  /-- The patterns of rules that have been compiled. -/
  regexes : RegexCache
  /-- What was done so far, in order. -/
  journal : List Effect
  /-- The readings of the clock, in order. -/
  clock : Nat → Instant
  /-- How often the clock has been read. -/
  readings : Nat
  /-- The identifiers of new sessions, in order. -/
  ids : Nat → SessionId
  /-- How many sessions have been begun. -/
  begun : Nat

namespace World

variable {σ π : Type}

/-- Reads the clock. -/
def now (w : World σ π) : Instant × World σ π :=
  (w.clock w.readings, { w with readings := w.readings + 1 })

/-- Takes the identifier of a new session. -/
def freshId (w : World σ π) : SessionId × World σ π :=
  (w.ids w.begun, { w with begun := w.begun + 1 })

/-- How often a method of the store has been called. -/
def callCount (w : World σ π) (method : StoreMethod) : Nat :=
  w.journal.countP (Effect.isCallOf method)

/-- What the store answers to a call now. -/
def reply (w : World σ π) (c : StoreCall) : Except StoreError (c.Answer × MemoryStore) :=
  if w.faults c.method (w.callCount c.method) then .error (.unavailable c.method)
  else w.store.call c

/-- Calls the store. -/
def call (w : World σ π) (c : StoreCall) : Except StoreError c.Answer × World σ π :=
  match w.reply c with
  | .ok (answer, store) => (.ok answer, { w with store, journal := w.journal ++ [.store c none] })
  | .error e => (.error e, { w with journal := w.journal ++ [.store c (some e)] })

/-- Calls the store for its effect and tells whether it succeeded. -/
def write (w : World σ π) (c : StoreCall) : Bool × World σ π :=
  let (result, w) := w.call c
  (result.toBool, w)

/-- Calls the model. -/
def invoke [ModelService σ] (w : World σ π) (request : ModelRequest) :
    Except Failure ModelResponse × World σ π :=
  let (result, model) := ModelService.invoke request w.model
  (result, { w with model, journal := w.journal ++ [.model request result] })

/-- Hands the code of a session to the publisher. -/
def publish [Publisher π] (w : World σ π) (session : Session) (code : String) :
    Except Failure String × World σ π :=
  let (result, publisher) := Publisher.publish session code w.publisher
  (result, { w with publisher, journal := w.journal ++ [.publish session code result] })

end World

/-- Work on the world, which may fail. -/
abbrev Work (σ π : Type) := EStateM Failure (World σ π)

namespace Work

variable {σ π α : Type}

/-- Work that is given by its outcome. -/
def ofOutcome (f : World σ π → Except Failure α × World σ π) : Work σ π α := fun w =>
  match f w with
  | (.ok a, w) => .ok a w
  | (.error e, w) => .error e w

/-- Calls the store. -/
def store (c : StoreCall) : Work σ π c.Answer :=
  ofOutcome fun w =>
    let (result, w) := w.call c
    (result.mapError StoreError.toFailure, w)

/-- Calls the model. -/
def invoke [ModelService σ] (request : ModelRequest) : Work σ π ModelResponse :=
  ofOutcome (·.invoke request)

/-- The outcome of work and the world after it. -/
def outcome (work : Work σ π α) (w : World σ π) : Except Failure α × World σ π :=
  match work w with
  | .ok a w => (.ok a, w)
  | .error e w => (.error e, w)

end Work

end ArtifactPipeline
