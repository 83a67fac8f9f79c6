import ArtifactPipeline.Component.Chunk
import ArtifactPipeline.Run.Phase

/-!
# Streaming a session

The streaming way of working on a request: updates are handed out while the session is worked on.
Work is done only when an update is asked for, and no more of it than that update needs; a stream
that nobody asks does nothing.
-/

namespace ArtifactPipeline

/-- What a stream hands out. -/
inductive Update where
  | log (entry : LogEntry)
  | chunk (chunk : Chunk)
  /-- The session at its end; the last update. -/
  | finished (session : Session)

/-- What a stream has to do next. -/
inductive Stage where
  /-- Open the session and plan it. -/
  | opening
  /-- Generate the component. -/
  | planned (run : SessionRun)
  /-- Run a round of validation. -/
  | checking (run : SessionRun)
  /-- End the session as failed. -/
  | failing (run : SessionRun) (failure : Failure)
  /-- Nothing. -/
  | ended

/-- A stream of updates on a request. -/
structure UpdateStream where
  config : Config
  request : ComponentRequest
  stage : Stage := .opening
  /-- The updates that are ready. -/
  ready : List Update := []

variable {σ π : Type}

namespace Stage

/-- Hands out the new log entries. -/
def logs (f : Flight σ π) : List Update := f.run.drain.1.map .log

/-- The session in flight without the entries that have been handed out. -/
def drained (f : Flight σ π) : SessionRun := f.run.drain.2

/-- The last updates of a session. -/
def close (f : Flight σ π) : List Update × Stage × World σ π :=
  (logs f ++ [.finished f.session], .ended, f.world)

/-- Ends a session as failed. -/
def abort (failure : Failure) (f : Flight σ π) : List Update × Stage × World σ π :=
  match FlightWork.fail failure f with
  | .ok _ f => close f
  | .error _ f => close f

/-- Opens and plans a session. -/
def open? [ModelService σ] (config : Config) (request : ComponentRequest) (w : World σ π) :
    List Update × Stage × World σ π :=
  match FlightWork.plan config (Flight.start config request w) with
  | .ok _ f => (logs f, .planned (drained f), f.world)
  | .error e f => (logs f, .failing (drained f) e, f.world)

/-- Generates the component and cuts it into chunks. -/
def produce [ModelService σ] (config : Config) (request : ComponentRequest) (f : Flight σ π) :
    List Update × Stage × World σ π :=
  match FlightWork.produce config request.prompt .streaming "Streaming component" f with
  | .ok generated f =>
    let chunks := Chunk.cut config.pipeline.chunkSize generated.code.toList
    (logs f ++ chunks.map .chunk, .checking (drained f), f.world)
  | .error e f => abort e f

/-- Runs a round of validation. -/
def check [ModelService σ] [Publisher π] (config : Config) (f : Flight σ π) :
    List Update × Stage × World σ π :=
  match FlightWork.round config f with
  | .ok .again f => (logs f, .checking (drained f), f.world)
  | .ok .finished f => close f
  | .error e f => (logs f, .failing (drained f) e, f.world)

/-- Does what a stage has to do. The result is the updates that it gives, the next stage and the
world after it. -/
def work [ModelService σ] [Publisher π] (config : Config) (request : ComponentRequest)
    (w : World σ π) : Stage → List Update × Stage × World σ π
  | opening => open? config request w
  | planned run => produce config request ⟨run, w⟩
  | checking run => check config ⟨run, w⟩
  | failing run failure => abort failure ⟨run, w⟩
  | ended => ([], ended, w)

end Stage

namespace UpdateStream

/-- Hands out the next update. Every stage but the last gives updates, so at most one stage has to
be worked on. -/
def next [ModelService σ] [Publisher π] (s : UpdateStream) (w : World σ π) :
    Option Update × UpdateStream × World σ π :=
  match s.ready with
  | update :: ready => (some update, { s with ready }, w)
  | [] =>
    let (updates, stage, w) := s.stage.work s.config s.request w
    match updates with
    | [] => (none, { s with stage }, w)
    | update :: ready => (some update, { s with stage, ready }, w)

/-- Hands out the given number of updates, or all that there are. -/
def take [ModelService σ] [Publisher π] : (count : Nat) → UpdateStream → World σ π →
    List Update × UpdateStream × World σ π
  | 0, s, w => ([], s, w)
  | count + 1, s, w =>
    match s.next w with
    | (none, s, w) => ([], s, w)
    | (some update, s, w) =>
      let (updates, s, w) := take count s w
      (update :: updates, s, w)

/-- Works on at most the given number of stages and hands out all their updates. -/
def collect [ModelService σ] [Publisher π] : (stages : Nat) → UpdateStream → World σ π →
    List Update × UpdateStream × World σ π
  | 0, s, w => (s.ready, { s with ready := [] }, w)
  | stages + 1, s, w =>
    match s.stage with
    | .ended => (s.ready, { s with ready := [] }, w)
    | stage =>
      let (updates, stage, w) := stage.work s.config s.request w
      let (rest, next, w) := collect stages { s with stage, ready := [] } w
      (s.ready ++ updates ++ rest, next, w)

/-- Hands out all updates. A session is opened, planned and perhaps ended as failed, and each round
of validation that is followed by another one uses up an attempt. -/
def toEnd [ModelService σ] [Publisher π] (s : UpdateStream) (w : World σ π) :
    List Update × UpdateStream × World σ π :=
  s.collect (s.config.pipeline.maxAttempts + 4) w

end UpdateStream

end ArtifactPipeline
