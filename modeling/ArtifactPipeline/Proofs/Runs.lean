import ArtifactPipeline.Proofs.Course
import ArtifactPipeline.Run.Blocking
import ArtifactPipeline.Run.Streaming

/-!
# Runs to the end

Both ways of working on a request bring its session to an end, whatever the store, the model and the
publisher do. The programs are written with a bound on the number of rounds; the loop without a
bound is given here as a relation, and the bound is never what stops a run.
-/

namespace ArtifactPipeline

variable {σ π : Type}

namespace FlightWork

variable [ModelService σ] [Publisher π]

/-- The loop without a bound: rounds follow each other until one ends the session or breaks off. -/
inductive Loops (config : Config) : Flight σ π → EStateM.Result Failure (Flight σ π) Unit → Prop
  | finished {f f' : Flight σ π} : round config f = .ok .finished f' → Loops config f (.ok () f')
  | broken {e : Failure} {f f' : Flight σ π} : round config f = .error e f' →
    Loops config f (.error e f')
  | again {f f' : Flight σ π} {result : EStateM.Result Failure (Flight σ π) Unit} :
    round config f = .ok .again f' → Loops config f' result → Loops config f result

/-- Planning, generating and the loop without a bound. -/
inductive Drives (config : Config) (request : ComponentRequest) (f : Flight σ π) :
    EStateM.Result Failure (Flight σ π) Unit → Prop
  | unplanned {e : Failure} {f' : Flight σ π} : plan config f = .error e f' →
    Drives config request f (.error e f')
  | unproduced {e : Failure} {f₁ f' : Flight σ π} : plan config f = .ok () f₁ →
    produce config request.prompt .generating "Generating component" f₁ = .error e f' →
    Drives config request f (.error e f')
  | produced {generated : Generated} {f₁ f₂ : Flight σ π}
    {result : EStateM.Result Failure (Flight σ π) Unit} : plan config f = .ok () f₁ →
    produce config request.prompt .generating "Generating component" f₁ = .ok generated f₂ →
    Loops config f₂ result → Drives config request f result

variable {config : Config} {request : ComponentRequest} {w : World σ π}

/-- The work came to an end: the session has ended, or is to be ended as failed. -/
inductive Settled (config : Config) (request : ComponentRequest) (w : World σ π) :
    EStateM.Result Failure (Flight σ π) Unit → Prop
  | ended {f : Flight σ π} : Ended config request w f.session f.world →
    Settled config request w (.ok () f)
  | broken {e : Failure} {f : Flight σ π} : BrokenOff config request w e f.session f.world →
    Settled config request w (.error e f)

/-- Each round that asks for another one uses up an attempt. So one round more than there are
attempts left is enough, and the bounded loop is the loop without a bound. -/
theorem settle_settled (rounds : Nat) {f : Flight σ π} {done : Nat}
    (h : Underway config request w done f.session f.world)
    (hrounds : config.pipeline.maxAttempts + 1 ≤ done + rounds) :
    Loops config f (settle config rounds f) ∧
      Settled config request w (settle config rounds f) := by
  induction rounds generalizing f done with
  | zero =>
    have hbound := h.bound
    omega
  | succ rounds ih =>
    have hround := round_ends config h.edge
    rw [settle]
    cases hresult : round config f with
    | error e f' =>
      rw [hresult] at hround
      rw [bind_error _ hresult]
      exact ⟨.broken hresult, .broken (h.error hround)⟩
    | ok next f' =>
      rw [hresult] at hround
      rw [bind_ok _ hresult]
      cases next with
      | finished => exact ⟨.finished hresult, .ended (h.finished hround)⟩
      | again =>
        obtain ⟨hloops, hsettled⟩ := ih (h.again hround) (by omega)
        exact ⟨.again hresult hloops, hsettled⟩

/-- Working on a new session comes to an end, and its loop is not cut short. -/
theorem drive_settled (config : Config) (request : ComponentRequest) (w : World σ π) :
    Drives config request (Flight.start config request w)
        (drive config request (Flight.start config request w)) ∧
      Settled config request w (drive config request (Flight.start config request w)) := by
  rw [drive]
  rcases plan_outcome config request w with
    ⟨f₁, hplan, hplanned⟩ | ⟨e, f₁, hplan, hbroken⟩
  · rw [bind_ok _ hplan]
    rcases produce_outcome request.prompt "Generating component" hplanned (Or.inl rfl)
      (by decide) with
      ⟨generated, f₂, hproduce, hunderway⟩ | ⟨e, f₂, hproduce, hbroken⟩
    · rw [bind_ok _ hproduce, get_bind]
      have hlimit := hunderway.progress.limit
      have hattempts := hunderway.progress.attempts
      obtain ⟨hloops, hsettled⟩ := settle_settled
        (f₂.session.maxAttempts - f₂.session.attempts + 1) hunderway (by omega)
      exact ⟨.produced hplan hproduce hloops, hsettled⟩
    · rw [bind_error _ hproduce]
      exact ⟨.unproduced hplan hproduce, .broken hbroken⟩
  · rw [bind_error _ hplan]
    exact ⟨.unplanned hplan, .broken hbroken⟩

/-- Work that came to an end leaves a session that has ended. -/
theorem runToEnd_ended (config : Config) (request : ComponentRequest) (w : World σ π) :
    ∃ f, runToEnd config request (Flight.start config request w) = .ok () f ∧
      Ended config request w f.session f.world := by
  obtain ⟨-, hsettled⟩ := drive_settled config request w
  rw [runToEnd]
  generalize drive config request (Flight.start config request w) = result at hsettled
  cases hsettled with
  | @ended f h => exact ⟨f, rfl, h⟩
  | @broken e f h => exact h.fail

end FlightWork

namespace Stage

/-- The stage is one that a stream on a request reaches, and at most the given number of stages are
worked on from it until the stream ends. -/
inductive Awaits (config : Config) (request : ComponentRequest) (w : World σ π) :
    Nat → Stage → World σ π → Prop
  | opening : Awaits config request w (config.pipeline.maxAttempts + 4) .opening w
  | planned {run : SessionRun} {w' : World σ π} : Planned config request w run.session w' →
    Awaits config request w (config.pipeline.maxAttempts + 3) (.planned run) w'
  | checking {run : SessionRun} {w' : World σ π} {done : Nat} :
    Underway config request w done run.session w' →
    Awaits config request w (config.pipeline.maxAttempts - done + 2) (.checking run) w'
  | failing {run : SessionRun} {w' : World σ π} {e : Failure} :
    BrokenOff config request w e run.session w' → Awaits config request w 1 (.failing run e) w'

/-- The work on a stage leads to a stage that is nearer to the end, or it ends the stream with the
session. -/
inductive Progresses (config : Config) (request : ComponentRequest) (w : World σ π) (rest : Nat) :
    List Update × Stage × World σ π → Prop
  | next {updates : List Update} {stage : Stage} {w' : World σ π} {fewer : Nat} : fewer < rest →
    Awaits config request w fewer stage w' → Progresses config request w rest (updates, stage, w')
  | ended {updates : List Update} {s : Session} {w' : World σ π} : Ended config request w s w' →
    Progresses config request w rest (updates ++ [.finished s], .ended, w')

variable {config : Config} {request : ComponentRequest} {w w' : World σ π} {rest : Nat}

/-- A stream that is aborted has come to its end. -/
theorem abort_progresses {e : Failure} {f : Flight σ π}
    (h : BrokenOff config request w e f.session f.world) :
    Progresses config request w rest (abort e f) := by
  obtain ⟨f', hfail, hended⟩ := h.fail
  rw [abort, hfail]
  exact .ended hended

/-- Each stage of a stream brings it nearer to its end. -/
theorem work_progresses [ModelService σ] [Publisher π] {stage : Stage}
    (h : Awaits config request w rest stage w') :
    Progresses config request w rest (stage.work config request w') := by
  cases h with
  | opening =>
    rw [work, open?]
    rcases plan_outcome config request w with ⟨f, hplan, hplanned⟩ | ⟨e, f, hplan, hbroken⟩
    · rw [hplan]
      exact .next (by omega) (.planned hplanned)
    · rw [hplan]
      exact .next (by omega) (.failing hbroken)
  | @planned run w' hplanned =>
    rw [work, produce]
    rcases produce_outcome request.prompt "Streaming component" (f := ⟨run, w'⟩) hplanned
      (Or.inr rfl) (by decide) with
      ⟨generated, f, hproduce, hunderway⟩ | ⟨e, f, hproduce, hbroken⟩
    · rw [hproduce]
      exact .next (by omega) (.checking hunderway)
    · rw [hproduce]
      exact abort_progresses hbroken
  | @checking run w' done hunderway =>
    have hbound := hunderway.bound
    have hround := FlightWork.round_ends config (f := ⟨run, w'⟩) hunderway.edge
    rw [work, check]
    cases hresult : FlightWork.round config ⟨run, w'⟩ with
    | error e f =>
      rw [hresult] at hround
      exact .next (by omega) (.failing (hunderway.error (f := ⟨run, w'⟩) hround))
    | ok next f =>
      rw [hresult] at hround
      cases next with
      | finished => exact .ended (hunderway.finished (f := ⟨run, w'⟩) hround)
      | again =>
        have hagain := hunderway.again (f := ⟨run, w'⟩) hround
        have hbound' := hagain.bound
        exact .next (by omega) (.checking hagain)
  | @failing run w' e hbroken =>
    rw [work]
    exact abort_progresses (f := ⟨run, w'⟩) hbroken

end Stage

namespace UpdateStream

variable [ModelService σ] [Publisher π]

/-- A stream that has ended hands out what is ready and does nothing. -/
theorem collect_ended {s : UpdateStream} (stages : Nat) (w : World σ π) (h : s.stage = .ended) :
    s.collect stages w = (s.ready, { s with ready := [] }, w) := by
  cases stages with
  | zero => rfl
  | succ stages => rw [collect, h]

/-- Collecting the updates of a stream works on its stages one after another. -/
theorem collect_work {s : UpdateStream} (stages : Nat) (w : World σ π) (h : s.stage ≠ .ended) :
    s.collect (stages + 1) w =
      let (updates, stage, w) := s.stage.work s.config s.request w
      let (rest, next, w) := collect stages { s with stage, ready := [] } w
      (s.ready ++ updates ++ rest, next, w) := by
  rw [collect]
  cases hstage : s.stage with
  | ended => exact absurd hstage h
  | opening | planned | checking | failing => rfl

/-- A stream that came to its end needs no further stages. -/
theorem collect_add (stages extra : Nat) {s : UpdateStream} {w : World σ π}
    (h : (s.collect stages w).2.1.stage = .ended) :
    s.collect (stages + extra) w = s.collect stages w := by
  induction stages generalizing s w with
  | zero => exact collect_ended (0 + extra) w h
  | succ stages ih =>
    by_cases hstage : s.stage = .ended
    · rw [collect_ended _ w hstage, collect_ended _ w hstage]
    · rw [collect_work _ w hstage] at h
      rw [Nat.add_right_comm, collect_work _ w hstage, collect_work _ w hstage]
      dsimp only at h ⊢
      rw [ih h]

variable {config : Config} {request : ComponentRequest} {w : World σ π}

/-- From a stage that it reaches, a stream comes to its end and hands out the session last. -/
theorem collect_awaited (stages : Nat) {rest : Nat} {stage : Stage} {w' : World σ π}
    (h : stage.Awaits config request w rest w') (hstages : rest ≤ stages) :
    ∃ updates session w'', collect stages { config, request, stage } w' =
        (updates ++ [.finished session], { config, request, stage := .ended }, w'') ∧
      Ended config request w session w'' := by
  induction stages generalizing rest stage w' with
  | zero =>
    have hpos : 0 < rest := by cases h <;> omega
    omega
  | succ stages ih =>
    have hopen : stage ≠ .ended := by rintro rfl; cases h
    have hwork := Stage.work_progresses h
    rw [collect_work stages w' hopen]
    dsimp only
    generalize stage.work config request w' = result at hwork ⊢
    cases hwork with
    | @next updates stage w' fewer hfewer hnext =>
      obtain ⟨later, session, w'', hcollect, hended⟩ := ih hnext (by omega)
      refine ⟨updates ++ later, session, w'', ?_, hended⟩
      simp only [hcollect, List.nil_append, List.append_assoc]
    | @ended updates session w' hended =>
      refine ⟨updates, session, w', ?_, hended⟩
      rw [collect_ended stages w' rfl]
      simp

/-- A stream that is asked for everything comes to its end and hands out the session last. -/
theorem toEnd_awaited (config : Config) (request : ComponentRequest) (w : World σ π) :
    ∃ updates session w', toEnd { config, request } w =
        (updates ++ [.finished session], { config, request, stage := .ended }, w') ∧
      Ended config request w session w' :=
  collect_awaited _ .opening (Nat.le_refl _)

end UpdateStream

/-- The session that an update hands out. -/
def Update.session? : Update → Option Session
  | finished session => some session
  | _ => none

/-- The log entry that an update hands out. -/
def Update.log? : Update → Option LogEntry
  | log entry => some entry
  | _ => none

/-- The ways of working on a request. -/
inductive Entry where
  | blocking
  | streaming

namespace Entry

variable [ModelService σ] [Publisher π]

/-- Runs a request to its end. There is no result if the work fails, or if the stream does not end
with a session. -/
def run (entry : Entry) (config : Config) (request : ComponentRequest) (w : World σ π) :
    Option (SessionReport × World σ π) :=
  match entry with
  | blocking =>
    match execute config request w with
    | .ok report w => some (report, w)
    | .error _ _ => none
  | streaming =>
    match UpdateStream.toEnd { config, request } w with
    | (updates, { stage := .ended, .. }, w) =>
      (updates.getLast?.bind Update.session?).map fun session =>
        (⟨session, updates.filterMap Update.log?⟩, w)
    | _ => none

/-- A blocking run that ends with a report is what the command executes. -/
theorem execute_of_run {config : Config} {request : ComponentRequest} {w w' : World σ π}
    {report : SessionReport} (h : blocking.run config request w = some (report, w')) :
    execute config request w = .ok report w' := by
  simp only [run] at h
  cases hresult : execute config request w with
  | error e w'' =>
    rw [hresult] at h
    cases h
  | ok other w'' =>
    rw [hresult] at h
    cases h
    rfl

/-- The bound on the rounds of a run has no influence: the blocking way does what the loop without a
bound does, and further stages add nothing to a stream. -/
def Unbounded (config : Config) (request : ComponentRequest) (w : World σ π) : Entry → Prop
  | blocking => FlightWork.Drives config request (Flight.start config request w)
      (FlightWork.drive config request (Flight.start config request w))
  | streaming => ∀ extra,
      UpdateStream.collect (config.pipeline.maxAttempts + 4 + extra) { config, request } w =
        UpdateStream.toEnd { config, request } w

/-- Every run comes to its end, and its session has run its course. -/
theorem run_ended (entry : Entry) (config : Config) (request : ComponentRequest)
    (w : World σ π) :
    ∃ report w', entry.run config request w = some (report, w') ∧
      Ended config request w report.session w' := by
  cases entry with
  | blocking =>
    obtain ⟨f, hrun, hended⟩ := FlightWork.runToEnd_ended config request w
    refine ⟨⟨f.session, f.run.history⟩, f.world, ?_, hended⟩
    simp only [run, execute, hrun]
  | streaming =>
    obtain ⟨updates, session, w', hstream, hended⟩ :=
      UpdateStream.toEnd_awaited config request w
    refine ⟨⟨session, (updates ++ [Update.finished session]).filterMap Update.log?⟩, w', ?_,
      hended⟩
    simp only [run, hstream]
    simp [Update.session?]

/-- What a run did amounts to a course of its session. -/
theorem run_course (entry : Entry) (config : Config) (request : ComponentRequest)
    (w : World σ π) :
    ∃ report w' effects, entry.run config request w = some (report, w') ∧ w.Moves effects w' ∧
      report.session.origin = w.origin config request ∧
      Course (w.assess request.tenant) config.pipeline.maxAttempts report.session
        (tally effects) := by
  obtain ⟨report, w', hrun, horigin, t, ⟨effects, hmoves, rfl⟩, hcourse⟩ :=
    entry.run_ended config request w
  have htenant : report.session.tenant = request.tenant := congrArg Origin.tenant horigin
  rw [htenant] at hcourse
  exact ⟨report, w', effects, hrun, hmoves, horigin, hcourse⟩

/-- The bound on the rounds is never what stops a run, for either way of working. -/
theorem unbounded (entry : Entry) (config : Config) (request : ComponentRequest)
    (w : World σ π) : entry.Unbounded config request w := by
  cases entry with
  | blocking => exact (FlightWork.drive_settled config request w).1
  | streaming =>
    intro extra
    obtain ⟨updates, session, w', hstream, -⟩ := UpdateStream.toEnd_awaited config request w
    rw [UpdateStream.toEnd] at hstream
    exact UpdateStream.collect_add _ extra (by rw [hstream])

end Entry

end ArtifactPipeline
