import ArtifactPipeline.Proofs.Chunks
import ArtifactPipeline.Proofs.Relay

/-!
# What a stream hands out

A stream works on a session in stages and hands out what each stage logged. It does what a run in
one piece does in the streaming way. So what it hands out is the log of that run, with the chunks of
the component in between, and the session at the end of the run.
-/

namespace ArtifactPipeline

variable {σ π : Type}

/-- What a stream hands out last: log entries and the session. -/
def Update.closing (entries : List LogEntry) (session : Session) : List Update :=
  entries.map .log ++ [.finished session]

/-- Entries that are handed out before the last ones may be counted among them. -/
theorem Update.map_log_append_closing (before after : List LogEntry) (session : Session) :
    before.map .log ++ Update.closing after session = Update.closing (before ++ after) session := by
  simp [closing]

/-- The last updates are never none, since the session is one of them. -/
theorem Update.closing_ne_nil (entries : List LogEntry) (session : Session) :
    Update.closing entries session ≠ [] := by
  simp [closing]

/-- A stage that moved its session on has an entry to hand out. -/
theorem Stage.logs_ne_nil {f f' : Flight σ π} {next : Status} {message : String}
    {data : Json.Value} (h : (f.moved next message data).Goes f') : Stage.logs f' ≠ [] := by
  obtain ⟨entry, rest, -, -, hpending⟩ := h.after_moved
  simp [Stage.logs, SessionRun.drain, hpending]

/-- A stream closes with the entries that it has not handed out yet and with the session of the
run. -/
theorem Flight.Relays.close {f g h : Flight σ π} (r : f.Relays h g) :
    Stage.close g = (Update.closing g.run.pending h.session, .ended, h.world) := by
  rw [Stage.close, r.session, r.world]
  rfl

namespace UpdateStream

variable {config : Config} {request : ComponentRequest} {w w' w'' : World σ π}
  {f g h : Flight σ π}

/-- A stream that has to end a session as failed does so, and hands out what was logged. -/
theorem abort_closes {e : Failure} (r : f.Relays h g)
    (hbroken : BrokenOff config request w e h.session h.world) :
    ∃ later h', FlightWork.fail e h = .ok () h' ∧ h'.run.history = f.run.history ++ later ∧
      Stage.abort e g = (Update.closing later h'.session, .ended, h'.world) := by
  obtain ⟨h', hfail, -⟩ := hbroken.fail
  obtain ⟨hprogress, -⟩ := hbroken
  have hrelays := r.fail e hprogress.artifactId hprogress.status
  rw [hfail] at hrelays
  rw [Stage.abort]
  generalize FlightWork.fail e g = result at hrelays ⊢
  cases hrelays with
  | @ok _ _ g' r' => exact ⟨g'.run.pending, h', hfail, r'.history, r'.close⟩

variable [ModelService σ] [Publisher π]

/-- The updates that a stream hands out from a stage on, worked on stage by stage until it ends, and
the world after that. Each stage gives some updates. -/
inductive HandsOut (config : Config) (request : ComponentRequest) :
    Stage → World σ π → List Update → World σ π → Prop
  | last {stage : Stage} {w w' : World σ π} {now : List Update} :
    stage.work config request w = (now, .ended, w') → now ≠ [] →
    HandsOut config request stage w now w'
  | next {stage next : Stage} {w w' w'' : World σ π} {now later : List Update} :
    stage.work config request w = (now, next, w') → now ≠ [] →
    HandsOut config request next w' later w'' →
    HandsOut config request stage w (now ++ later) w''

namespace HandsOut

variable {stage : Stage} {updates : List Update}

/-- A stage that gives updates is not the end. -/
theorem ne_ended {now : List Update} {result : Stage × World σ π}
    (hwork : stage.work config request w = (now, result)) (hnow : now ≠ []) : stage ≠ .ended := by
  rintro rfl
  cases hwork
  exact hnow rfl

/-- A stream that works on enough stages to come to its end hands out all updates. -/
theorem collect (h : HandsOut config request stage w updates w') (stages : Nat)
    (hended : (collect stages { config, request, stage } w).2.1.stage = .ended) :
    UpdateStream.collect stages { config, request, stage } w =
      (updates, { config, request, stage := .ended }, w') := by
  induction h generalizing stages with
  | last hwork hnow =>
    have hopen := ne_ended hwork hnow
    cases stages with
    | zero => exact absurd hended hopen
    | succ stages =>
      rw [collect_work stages _ hopen]
      simp only [hwork]
      rw [collect_ended stages _ rfl]
      simp
  | next hwork hnow _ ih =>
    have hopen := ne_ended hwork hnow
    cases stages with
    | zero => exact absurd hended hopen
    | succ stages =>
      rw [collect_work stages _ hopen] at hended ⊢
      simp only [hwork] at hended ⊢
      rw [ih stages hended]
      simp

/-- The updates that are ready are handed out before anything else. -/
theorem take_ready (stage : Stage) (ready : List Update) (count : Nat) (w : World σ π) :
    take (ready.length + count) { config, request, stage, ready } w =
      let (updates, s, w) := take count { config, request, stage } w
      (ready ++ updates, s, w) := by
  induction ready with
  | nil =>
    rw [List.length_nil, Nat.zero_add]
    rfl
  | cons update ready ih =>
    rw [List.length_cons, Nat.add_right_comm, take]
    simp only [UpdateStream.next, ih]
    rfl

/-- A consumer that takes at least what a stage gives takes the rest from the next stage. -/
theorem take_work {now : List Update} {next : Stage} (count : Nat)
    (hwork : stage.work config request w = (now, next, w')) (hnow : now ≠ []) :
    take (now.length + count) { config, request, stage } w =
      let (updates, s, w) := take count { config, request, stage := next } w'
      (now ++ updates, s, w) := by
  obtain ⟨update, ready, rfl⟩ := List.exists_cons_of_ne_nil hnow
  rw [List.length_cons, Nat.add_right_comm, take]
  simp only [UpdateStream.next, hwork, take_ready]
  rfl

/-- There is nothing to take from a stream that has ended. -/
theorem take_ended (count : Nat) (w : World σ π) :
    take count { config, request, stage := .ended } w =
      ([], { config, request, stage := .ended }, w) := by
  cases count <;> rfl

/-- A stream that is asked for one update after the other hands out the same updates, and then no
more. -/
theorem take (h : HandsOut config request stage w updates w') (extra : Nat) :
    UpdateStream.take (updates.length + extra) { config, request, stage } w =
      (updates, { config, request, stage := .ended }, w') := by
  induction h with
  | last hwork hnow =>
    rw [take_work extra hwork hnow, take_ended]
    simp
  | next hwork hnow _ ih =>
    rw [List.length_append, Nat.add_assoc, take_work _ hwork hnow, ih]

/-- A stage that hands out what its work logged comes before the stages after it. -/
theorem relay {next : Stage} {f' : Flight σ π} {later : List LogEntry} (r : f.Relays h g)
    (hwork : stage.work config request w = (Stage.logs g, next, g.world))
    (hlogs : Stage.logs g ≠ []) (hhistory : f'.run.history = h.run.history ++ later)
    (hnext : HandsOut config request next g.world (Update.closing later f'.session) f'.world) :
    ∃ all, f'.run.history = f.run.history ++ all ∧
      HandsOut config request stage w (Update.closing all f'.session) f'.world := by
  refine ⟨g.run.pending ++ later, by rw [hhistory, r.history, List.append_assoc], ?_⟩
  rw [← Update.map_log_append_closing]
  exact .next hwork hlogs hnext

end HandsOut

/-- From the failure on, a stream hands out what ending the session as failed logs. -/
theorem handsOut_failing {e : Failure} (hbroken : BrokenOff config request w e f.session f.world) :
    ∃ later f', FlightWork.fail e f = .ok () f' ∧ f'.run.history = f.run.history ++ later ∧
      HandsOut config request (.failing (Stage.drained f) e) f.world
        (Update.closing later f'.session) f'.world := by
  obtain ⟨later, f', hfail, hhistory, habort⟩ := abort_closes (.start f) hbroken
  exact ⟨later, f', hfail, hhistory, .last habort (Update.closing_ne_nil _ _)⟩

/-- From its rounds on, a stream does what a run does in one piece, and hands out what that
logs. -/
theorem handsOut_checking (rounds : Nat) {done : Nat}
    (h : Underway config request w done f.session f.world)
    (hrounds : config.pipeline.maxAttempts + 1 ≤ done + rounds) :
    ∃ later f', FlightWork.orFail (FlightWork.settle config rounds) f = .ok () f' ∧
      f'.run.history = f.run.history ++ later ∧
      HandsOut config request (.checking (Stage.drained f)) f.world
        (Update.closing later f'.session) f'.world := by
  induction rounds generalizing f done with
  | zero =>
    -- An attempt is left as long as a session is underway, so the rounds are not used up.
    have hbound := h.bound
    omega
  | succ rounds ih =>
    have hends := FlightWork.round_ends config h.edge
    have hrelays := (Flight.Relays.start f).round config h.progress.artifactId h.edge
    have hopens := FlightWork.round_opens config (f := f.drained) h.edge
    have hwork : (Stage.checking (Stage.drained f)).work config request f.world =
        Stage.check config f.drained := rfl
    rw [Stage.check] at hwork
    cases hresult : FlightWork.round config f with
    | error e f₁ =>
      rw [hresult] at hends hrelays
      have hsettle : FlightWork.settle config (rounds + 1) f = .error e f₁ :=
        bind_error _ hresult
      obtain ⟨later, f₂, hfail, hhistory, hlast⟩ := handsOut_failing (h.error hends)
      generalize FlightWork.round config f.drained = result at hrelays hopens hwork
      cases hrelays with
      | @error _ _ g r =>
        rw [← r.stage, ← r.world] at hlast
        obtain ⟨all, hall, hhands⟩ :=
          HandsOut.relay r hwork (Stage.logs_ne_nil hopens) hhistory hlast
        exact ⟨all, f₂, (FlightWork.orFail_error hsettle).trans hfail, hall, hhands⟩
    | ok next f₁ =>
      rw [hresult] at hends hrelays
      generalize FlightWork.round config f.drained = result at hrelays hopens hwork
      cases hrelays with
      | @ok _ _ g r =>
        cases next with
        | finished =>
          have hsettle : FlightWork.settle config (rounds + 1) f = .ok () f₁ := bind_ok _ hresult
          exact ⟨g.run.pending, f₁, FlightWork.orFail_ok hsettle, r.history,
            .last (hwork.trans r.close) (Update.closing_ne_nil _ _)⟩
        | again =>
          obtain ⟨later, f₂, hrest, hhistory, hnext⟩ := ih (h.again hends) (by omega)
          rw [← r.stage, ← r.world] at hnext
          obtain ⟨all, hall, hhands⟩ :=
            HandsOut.relay r hwork (Stage.logs_ne_nil hopens) hhistory hnext
          refine ⟨all, f₂, ?_, hall, hhands⟩
          rw [← hrest, FlightWork.orFail, FlightWork.settle, bind_ok _ hresult]
          rfl

/-- What a stream hands out for a session that was planned. -/
inductive StreamedFrom (config : Config) (request : ComponentRequest) (f : Flight σ π) :
    List Update → Flight σ π → Prop
  /-- No component could be generated. -/
  | unproduced {e : Failure} {f₂ f' : Flight σ π} {later : List LogEntry} :
    FlightWork.produce config request.prompt .streaming "Streaming component" f = .error e f₂ →
    f₂.session.status.isTerminal = false → FlightWork.fail e f₂ = .ok () f' →
    f'.run.history = f.run.history ++ later →
    StreamedFrom config request f (Update.closing later f'.session) f'
  /-- A component was generated, and was handed out in chunks before it was validated. -/
  | produced {f₂ f' : Flight σ π} {generated : Generated} {now later : List LogEntry} :
    FlightWork.produce config request.prompt .streaming "Streaming component" f =
      .ok generated f₂ →
    FlightWork.orFail (FlightWork.settle config
      (f₂.session.maxAttempts - f₂.session.attempts + 1)) f₂ = .ok () f' →
    f₂.session.status = .streaming → f₂.run.history = f.run.history ++ now →
    f'.run.history = f₂.run.history ++ later →
    StreamedFrom config request f
      (now.map .log ++ (Chunk.cut config.pipeline.chunkSize generated.code.toList).map .chunk ++
        Update.closing later f'.session) f'

/-- A planned session whose component is generated hands out what was logged, and the chunks. -/
theorem planned_work {f₂ : Flight σ π} {generated : Generated}
    (h : Planned config request w f.session f.world)
    (hproduce : FlightWork.produce config request.prompt .streaming "Streaming component" f =
      .ok generated f₂) :
    ∃ now, f₂.run.history = f.run.history ++ now ∧
      (Stage.planned (Stage.drained f)).work config request f.world =
        (now.map .log ++ (Chunk.cut config.pipeline.chunkSize generated.code.toList).map .chunk,
          .checking (Stage.drained f₂), f₂.world) := by
  obtain ⟨plan, hplan⟩ := h.plan
  have hrelays := (Flight.Relays.start f).produce config request.prompt h.status
    h.progress.artifactId hplan
  have hwork : (Stage.planned (Stage.drained f)).work config request f.world =
      Stage.produce config request f.drained := rfl
  rw [Stage.produce] at hwork
  rw [hproduce] at hrelays
  generalize FlightWork.produce config request.prompt .streaming "Streaming component" f.drained =
    result at hrelays hwork
  cases hrelays with
  | @ok _ _ g r =>
    refine ⟨g.run.pending, r.history, ?_⟩
    rw [← r.stage, ← r.world]
    exact hwork

omit [Publisher π] in
/-- The generated component is there while the session streams. -/
theorem produced_status {f₂ : Flight σ π} {generated : Generated}
    (h : Planned config request w f.session f.world)
    (hproduce : FlightWork.produce config request.prompt .streaming "Streaming component" f =
      .ok generated f₂) : f₂.session.status = .streaming := by
  obtain ⟨plan, hplan⟩ := h.plan
  have hends := FlightWork.produce_ends config request.prompt hplan
    (show f.session.status.canMoveTo .streaming = true by rw [h.status]; rfl) rfl
    (show "Streaming component" ≠ "Repairing component" by decide)
  rw [hproduce] at hends
  cases hends with
  | produced _ _ _ hcore => exact congrArg Session.status hcore

/-- From the generation of the component on, a stream does what a run does in one piece. -/
theorem handsOut_planned (h : Planned config request w f.session f.world) :
    ∃ updates f', StreamedFrom config request f updates f' ∧
      HandsOut config request (.planned (Stage.drained f)) f.world updates f'.world := by
  rcases produce_outcome request.prompt "Streaming component" h (Or.inr rfl) (by decide) with
    ⟨generated, f₂, hproduce, hunderway⟩ | ⟨e, f₂, hproduce, hbroken⟩
  · have hlimit := hunderway.progress.limit
    have hattempts := hunderway.progress.attempts
    obtain ⟨later, f', hrest, hhistory, hnext⟩ := handsOut_checking
      (f₂.session.maxAttempts - f₂.session.attempts + 1) hunderway (by omega)
    obtain ⟨now, hnow, hwork⟩ := planned_work h hproduce
    refine ⟨_, f', .produced hproduce hrest (produced_status h hproduce) hnow hhistory,
      .next hwork ?_ hnext⟩
    simp [Chunk.cut_ne_nil]
  · obtain ⟨plan, hplan⟩ := h.plan
    have hrelays := (Flight.Relays.start f).produce config request.prompt h.status
      h.progress.artifactId hplan
    have hwork : (Stage.planned (Stage.drained f)).work config request f.world =
        Stage.produce config request f.drained := rfl
    rw [Stage.produce] at hwork
    rw [hproduce] at hrelays
    generalize FlightWork.produce config request.prompt .streaming "Streaming component" f.drained =
      result at hrelays hwork
    cases hrelays with
    | @error _ _ g r =>
      obtain ⟨later, f', hfail, hhistory, habort⟩ := abort_closes r hbroken
      exact ⟨_, f', .unproduced hproduce hbroken.open hfail hhistory,
        .last (hwork.trans habort) (Update.closing_ne_nil _ _)⟩

end UpdateStream

/-- What a stream hands out on a request: the log of a run in one piece and its session, or that
with the chunks of the component in between. -/
inductive Streamed [ModelService σ] [Publisher π] (config : Config) (request : ComponentRequest)
    (w : World σ π) : List Update → Flight σ π → Prop
  /-- The session could not be planned. -/
  | unplanned {e : Failure} {f₁ f : Flight σ π} :
    FlightWork.plan config (.start config request w) = .error e f₁ →
    f₁.session.status.isTerminal = false → FlightWork.fail e f₁ = .ok () f →
    Streamed config request w (Update.closing f.run.history f.session) f
  /-- No component could be generated. -/
  | unproduced {e : Failure} {f₁ f₂ f : Flight σ π} :
    FlightWork.plan config (.start config request w) = .ok () f₁ →
    FlightWork.produce config request.prompt .streaming "Streaming component" f₁ = .error e f₂ →
    f₂.session.status.isTerminal = false → FlightWork.fail e f₂ = .ok () f →
    Streamed config request w (Update.closing f.run.history f.session) f
  /-- A component was generated, and was handed out in chunks before it was validated. -/
  | produced {f₁ f₂ f : Flight σ π} {generated : Generated} {later : List LogEntry} :
    FlightWork.plan config (.start config request w) = .ok () f₁ →
    FlightWork.produce config request.prompt .streaming "Streaming component" f₁ =
      .ok generated f₂ →
    FlightWork.orFail (FlightWork.settle config
      (f₂.session.maxAttempts - f₂.session.attempts + 1)) f₂ = .ok () f →
    f₂.session.status = .streaming → f.run.history = f₂.run.history ++ later →
    Streamed config request w
      (f₂.run.history.map .log ++
        (Chunk.cut config.pipeline.chunkSize generated.code.toList).map .chunk ++
        Update.closing later f.session) f

namespace FlightWork

variable [ModelService σ] [Publisher π] {config : Config} {request : ComponentRequest}
  {f f₁ f₂ : Flight σ π}

/-- A run that cannot be planned fails. -/
theorem runAs_unplanned (entry : Entry) {e : Failure} (hplan : plan config f = .error e f₁) :
    runAs entry config request f = fail e f₁ :=
  orFail_error (bind_error _ hplan)

/-- A run whose component cannot be generated fails. -/
theorem runAs_unproduced (entry : Entry) {e : Failure} (hplan : plan config f = .ok () f₁)
    (hproduce : produce config request.prompt entry.phase entry.announcement f₁ = .error e f₂) :
    runAs entry config request f = fail e f₂ := by
  refine orFail_error ?_
  rw [driveAs, bind_ok _ hplan, bind_error _ hproduce]

/-- A run with a component is settled in rounds, one more than there are attempts left. -/
theorem runAs_produced (entry : Entry) {generated : Generated} (hplan : plan config f = .ok () f₁)
    (hproduce : produce config request.prompt entry.phase entry.announcement f₁ =
      .ok generated f₂) :
    runAs entry config request f =
      orFail (settle config (f₂.session.maxAttempts - f₂.session.attempts + 1)) f₂ := by
  have hdrive : driveAs entry config request f =
      settle config (f₂.session.maxAttempts - f₂.session.attempts + 1) f₂ := by
    rw [driveAs, bind_ok _ hplan, bind_ok _ hproduce, get_bind]
  rw [runAs, orFail, hdrive]
  rfl

end FlightWork

/-- As long as nothing was handed out, all of the log waits for it. -/
theorem Flight.logs_plan [ModelService σ] {config : Config} {request : ComponentRequest}
    {w : World σ π} {f : Flight σ π}
    (hend : endState (FlightWork.plan config (Flight.start config request w)) = f) :
    Stage.logs f = f.run.history.map .log ∧ Stage.logs f ≠ [] := by
  obtain ⟨effects, -, hsteps⟩ := FlightWork.plan_goes config (Flight.start config request w)
  rw [hend] at hsteps
  have hpending := hsteps.owns.pending
  constructor
  · have hhistory : f.run.history = f.run.pending := by
      rw [hsteps.owns.history, hpending]
      rfl
    rw [hhistory]
    rfl
  · simp [Stage.logs, SessionRun.drain, hpending, Flight.start, Flight.log, SessionRun.record]

/-- A stream does what a run in one piece does in the streaming way, and hands out the log of that
run. -/
theorem UpdateStream.handsOut_opening [ModelService σ] [Publisher π] (config : Config)
    (request : ComponentRequest) (w : World σ π) :
    ∃ updates f, HandsOut config request .opening w updates f.world ∧
      FlightWork.runAs .streaming config request (Flight.start config request w) = .ok () f ∧
      Streamed config request w updates f := by
  have hwork : Stage.opening.work config request w = Stage.open? config request w := rfl
  rw [Stage.open?] at hwork
  rcases plan_outcome config request w with ⟨f₁, hplan, hplanned⟩ | ⟨e, f₁, hplan, hbroken⟩
  · obtain ⟨hlogs, hsome⟩ := Flight.logs_plan (f := f₁) (by rw [hplan]; rfl)
    obtain ⟨updates, f, hstreamed, hnext⟩ := handsOut_planned hplanned
    rw [hplan] at hwork
    refine ⟨_, f, .next hwork hsome hnext, ?_⟩
    rw [hlogs]
    cases hstreamed with
    | @unproduced e f₂ _ later hproduce hopen hfail hhistory =>
      rw [Update.map_log_append_closing, ← hhistory]
      refine ⟨?_, .unproduced hplan hproduce hopen hfail⟩
      rw [FlightWork.runAs_unproduced .streaming hplan hproduce, hfail]
    | @produced f₂ _ generated now later hproduce hrest hstatus hnow hlater =>
      rw [← List.append_assoc, ← List.append_assoc, ← List.map_append, ← hnow]
      refine ⟨?_, .produced hplan hproduce hrest hstatus hlater⟩
      rw [FlightWork.runAs_produced .streaming hplan hproduce, hrest]
  · obtain ⟨hlogs, hsome⟩ := Flight.logs_plan (f := f₁) (by rw [hplan]; rfl)
    obtain ⟨later, f, hfail, hhistory, hnext⟩ := handsOut_failing hbroken
    rw [hplan] at hwork
    refine ⟨_, f, .next hwork hsome hnext, ?_⟩
    rw [hlogs, Update.map_log_append_closing, ← hhistory]
    refine ⟨?_, .unplanned hplan hbroken.open hfail⟩
    rw [FlightWork.runAs_unplanned .streaming hplan, hfail]

/-- A stream that is asked for everything, or for one update after the other until there are no
more, hands out the log of a run in one piece. -/
theorem UpdateStream.toEnd_streamed [ModelService σ] [Publisher π] (config : Config)
    (request : ComponentRequest) (w : World σ π) :
    ∃ updates f, toEnd { config, request } w =
        (updates, { config, request, stage := .ended }, f.world) ∧
      (∀ extra, take (updates.length + extra) { config, request } w =
        (updates, { config, request, stage := .ended }, f.world)) ∧
      FlightWork.runAs .streaming config request (Flight.start config request w) = .ok () f ∧
      Streamed config request w updates f := by
  obtain ⟨updates, f, hhands, hrun, hstreamed⟩ := handsOut_opening config request w
  obtain ⟨_, _, _, htoEnd, -⟩ := toEnd_awaited config request w
  refine ⟨updates, f, hhands.collect _ ?_, hhands.take, hrun, hstreamed⟩
  rw [toEnd] at htoEnd
  rw [htoEnd]

section Report

variable [ModelService σ] [Publisher π] {config : Config} {request : ComponentRequest}
  {w : World σ π} {updates : List Update} {f : Flight σ π}

omit [ModelService σ] [Publisher π] in
/-- Log entries are read back from the updates that hand them out. -/
theorem Update.filterMap_log? (entries : List LogEntry) :
    (entries.map Update.log).filterMap Update.log? = entries := by
  rw [List.filterMap_map]
  exact List.filterMap_some

/-- The entries that a stream hands out are the log of its run. -/
theorem Streamed.log (h : Streamed config request w updates f) :
    updates.filterMap Update.log? = f.run.history := by
  have hchunks (chunks : List Chunk) : (chunks.map Update.chunk).filterMap Update.log? = [] := by
    simp [Update.log?]
  have hclosing (entries : List LogEntry) (session : Session) :
      (Update.closing entries session).filterMap Update.log? = entries := by
    rw [Update.closing, List.filterMap_append, Update.filterMap_log?]
    exact List.append_nil _
  cases h with
  | unplanned | unproduced => exact hclosing _ _
  | produced _ _ _ _ hhistory =>
    rw [List.filterMap_append, List.filterMap_append, Update.filterMap_log?, hchunks, hclosing,
      List.append_nil, hhistory]

/-- The last update of a stream is the session at the end of its run. -/
theorem Streamed.last (h : Streamed config request w updates f) :
    updates.getLast? = some (.finished f.session) := by
  cases h with
  | unplanned | unproduced => exact List.getLast?_concat
  | produced =>
    rw [Update.closing, ← List.append_assoc]
    exact List.getLast?_concat

end Report

/-- A run in either way is the run in one piece with the phase of that way. -/
theorem Entry.run_eq [ModelService σ] [Publisher π] (entry : Entry) (config : Config)
    (request : ComponentRequest) (w : World σ π) :
    ∃ f, FlightWork.runAs entry config request (Flight.start config request w) = .ok () f ∧
      entry.run config request w = some (⟨f.session, f.run.history⟩, f.world) := by
  cases entry with
  | blocking =>
    obtain ⟨f, hrun, -⟩ := FlightWork.runToEnd_ended config request w
    refine ⟨f, hrun, ?_⟩
    simp only [run, execute, hrun]
  | streaming =>
    obtain ⟨updates, f, hstream, -, hrun, hstreamed⟩ :=
      UpdateStream.toEnd_streamed config request w
    refine ⟨f, hrun, ?_⟩
    simp only [run, hstream, hstreamed.last, hstreamed.log]
    rfl

end ArtifactPipeline
