import ArtifactPipeline.Proofs.ModelCalls
import ArtifactPipeline.Proofs.Streams

/-!
# The updates of a stream

A stream hands out the log of its run, each entry once and in order, and then the session, which has
ended. If a component was generated, its chunks stand in between: after the entry that tells that it
was generated, and before the first entry of a validation.
-/

namespace ArtifactPipeline

variable {σ π : Type}

/-- The generation of a component is the last thing that is logged before the validation. -/
theorem FlightWork.produce_last [ModelService σ] {config : Config} {prompt : String}
    {phase : Status} {message : String} {f f' : Flight σ π} {generated : Generated}
    (h : produce config prompt phase message f = .ok generated f') :
    ∃ entry, f'.run.history.getLast? = some entry ∧ entry.message = "Component generated" := by
  obtain ⟨plan, f₁, -, h⟩ := ok_of_bind h
  obtain ⟨_, f₂, -, h⟩ := ok_of_bind h
  rw [get_bind] at h
  obtain ⟨generated', f₃, -, h⟩ := ok_of_bind h
  obtain ⟨_, f₄, haccept, h⟩ := ok_of_bind h
  cases h
  obtain ⟨_, f₅, -, haccept⟩ := ok_of_bind haccept
  obtain ⟨_, f₆, -, haccept⟩ := ok_of_bind haccept
  cases haccept
  exact ⟨_, List.getLast?_concat, rfl⟩

/-- The updates of a stream on a request, laid out by what its run did: log entries, the chunks of
the component, further log entries, and the session at last. -/
structure Layout (config : Config) (request : ComponentRequest) (effects : List Effect)
    (before : List LogEntry) (chunks : List Chunk) (after : List LogEntry) : Prop where
  /-- The entries are what was offered to the log of the store. -/
  log : before ++ after = effects.filterMap Effect.logged?
  /-- The model is asked for the classification first. -/
  classification : ∃ result, (effects.filterMap Effect.modelCall?)[0]? =
    some (classificationRequest config request.prompt, result)
  /-- What it is asked for then, if anything, is the component. -/
  generation : ∀ call, (effects.filterMap Effect.modelCall?)[1]? = some call →
    call.1.Generates config request.prompt
  /-- There are chunks exactly if that was answered. -/
  present : chunks ≠ [] ↔ ∃ call response,
    (effects.filterMap Effect.modelCall?)[1]? = some (call, .ok response)
  /-- The chunks are those of the code of the answer, and put together they are that code. -/
  pieces : ∀ call response,
    (effects.filterMap Effect.modelCall?)[1]? = some (call, .ok response) →
    let code := Component.extractCode response.content.toList
    chunks = Chunk.cut config.pipeline.chunkSize code ∧
      String.join (chunks.map (·.content)) = String.ofList code
  /-- The chunks stand right after the entry that tells of the component, and right before the first
  entry of a validation. -/
  place : chunks ≠ [] →
    (∃ entry, before.getLast? = some entry ∧ entry.message = "Component generated") ∧
    (∀ entry ∈ before, entry.phase ≠ .validating) ∧
    ∃ entry, after.head? = some entry ∧ entry.phase = .validating

/-- A run that generated no component. -/
theorem Layout.unproduced {config : Config} {request : ComponentRequest} {effects : List Effect}
    {log : List LogEntry} {result : Except Failure ModelResponse}
    {calls : List (ModelRequest × Except Failure ModelResponse)}
    (hlog : log = effects.filterMap Effect.logged?)
    (hcalls : effects.filterMap Effect.modelCall? =
      (classificationRequest config request.prompt, result) :: calls)
    (hanswered : Answered config request.prompt calls none) :
    Layout config request effects log [] [] where
  log := by rw [List.append_nil, hlog]
  classification := ⟨result, by rw [hcalls]; rfl⟩
  generation call hcall := by
    rw [hcalls] at hcall
    cases hanswered with
    | unasked => cases hcall
    | refused hgenerates =>
      cases hcall
      exact hgenerates
  present := by
    rw [hcalls]
    cases hanswered <;> simp
  pieces call response hcall := by
    rw [hcalls] at hcall
    cases hanswered <;> cases hcall
  place h := absurd rfl h

/-- A run that generated a component. -/
theorem Layout.produced {config : Config} {request : ComponentRequest} {effects : List Effect}
    {before after : List LogEntry} {result : Except Failure ModelResponse} {code : String}
    {calls later : List (ModelRequest × Except Failure ModelResponse)}
    (hlog : before ++ after = effects.filterMap Effect.logged?)
    (hcalls : effects.filterMap Effect.modelCall? =
      (classificationRequest config request.prompt, result) :: (calls ++ later))
    (hanswered : Answered config request.prompt calls (some code))
    (hlast : ∃ entry, before.getLast? = some entry ∧ entry.message = "Component generated")
    (hearly : ∀ entry ∈ before, entry.phase ≠ .validating)
    (hfirst : ∃ entry, after.head? = some entry ∧ entry.phase = .validating) :
    Layout config request effects before (Chunk.cut config.pipeline.chunkSize code.toList)
      after := by
  cases hanswered with
  | @answered call response hgenerates =>
    have hsecond : (effects.filterMap Effect.modelCall?)[1]? = some (call, .ok response) := by
      rw [hcalls]
      rfl
    rw [String.toList_ofList]
    refine ⟨hlog, ⟨result, by rw [hcalls]; rfl⟩, ?_, ?_, ?_, fun _ => ⟨hlast, hearly, hfirst⟩⟩
    · rintro _ hcall
      cases hsecond.symm.trans hcall
      exact hgenerates
    · exact iff_of_true (Chunk.cut_ne_nil _ _) ⟨call, response, hsecond⟩
    · rintro _ _ hcall
      cases hsecond.symm.trans hcall
      exact ⟨rfl, Chunk.join_cut _ _⟩

/-- Opening a session asks the model nothing. -/
theorem start_consults (config : Config) (request : ComponentRequest) (w : World σ π) :
    w.Consults [] (Flight.start config request w).world := by
  obtain ⟨effects, hmoves, htally⟩ := start_reaches config request w
  refine ⟨effects, hmoves.journal, ?_⟩
  exact congrArg Tally.calls htally

variable [ModelService σ] {config : Config} {request : ComponentRequest} {w : World σ π}
  {f f₁ f₂ : Flight σ π}

/-- A session whose planning succeeds has been planned. -/
theorem planned_of_plan
    (hplan : FlightWork.plan config (Flight.start config request w) = .ok () f) :
    Planned config request w f.session f.world := by
  rcases plan_outcome config request w with ⟨f', hplan', hplanned⟩ | ⟨e, f', hplan', -⟩
  · cases hplan.symm.trans hplan'
    exact hplanned
  · cases hplan.symm.trans hplan'

/-- The calls of the model up to the end of planning. -/
theorem plan_calls (config : Config) (request : ComponentRequest) (w : World σ π) :
    ∃ result, w.Consults [(classificationRequest config request.prompt, result)]
      (endState (FlightWork.plan config (Flight.start config request w))).world := by
  have hpending : (Flight.start config request w).session.status = .pending := rfl
  obtain ⟨result, hasked⟩ := FlightWork.plan_consults config hpending
  exact ⟨result, (start_consults config request w).after_none hasked⟩

/-- The calls of the model while the component of a planned session is produced in chunks. -/
theorem produce_calls (hplanned : Planned config request w f.session f.world) :
    let result := FlightWork.produce config request.prompt .streaming "Streaming component" f
    ∃ calls, f.world.Consults calls (endState result).world ∧
      Answered config request.prompt calls (generatedCode result) := by
  obtain ⟨plan, hsome⟩ := hplanned.plan
  have hedge : f.session.status.canMoveTo .streaming = true := by
    rw [hplanned.status]
    rfl
  exact FlightWork.produce_consults config request.prompt hsome hedge rfl (by decide)

/-- What was done up to the end of the generation was done in steps. -/
theorem produce_since
    (hplan : FlightWork.plan config (Flight.start config request w) = .ok () f₁)
    (hproduce : FlightWork.produce config request.prompt .streaming "Streaming component" f₁ =
      .ok generated f₂) :
    ∃ creation steps, f₂.Since w (Flight.start config request w).session creation steps := by
  have hplans := FlightWork.plan_goes config (Flight.start config request w)
  have hproduces :=
    FlightWork.produce_goes config request.prompt .streaming "Streaming component" f₁
  rw [hplan] at hplans
  rw [hproduce] at hproduces
  obtain ⟨creation, first, unlogged, hsince⟩ := Flight.start_since config request w
  obtain ⟨ys, -, hsince₁⟩ := hsince.goes hplans
  obtain ⟨zs, -, hsince₂⟩ := hsince₁.goes hproduces
  exact ⟨creation, _, hsince₂⟩

/-- Before the first validation, no entry of the log is of the phase of a validation. -/
theorem produce_early
    (hplan : FlightWork.plan config (Flight.start config request w) = .ok () f₁)
    (hproduce : FlightWork.produce config request.prompt .streaming "Streaming component" f₁ =
      .ok generated f₂) (hstatus : f₂.session.status = .streaming) :
    ∀ entry ∈ f₂.run.history, entry.phase ≠ .validating := by
  obtain ⟨creation, steps, hsince⟩ := produce_since hplan hproduce
  have hearly := hsince.steps.early (by show f₂.session.status.isEarly = true; rw [hstatus]; rfl)
  intro entry hentry hphase
  have hphase' := hearly entry (hsince.history ▸ hentry)
  rw [hphase] at hphase'
  cases hphase'

variable [Publisher π]

/-- What a stream hands out is laid out by what its run did. -/
theorem Streamed.layout {updates : List Update} {effects : List Effect}
    (h : Streamed config request w updates f)
    (hjournal : f.world.journal = w.journal ++ effects)
    (hlog : f.run.history = effects.filterMap Effect.logged?) :
    ∃ before chunks after,
      updates = before.map .log ++ chunks.map .chunk ++ after.map .log ++ [.finished f.session] ∧
      Layout config request effects before chunks after := by
  obtain ⟨result, hasked⟩ := plan_calls config request w
  -- The calls of the model are put together from those up to where the run broke off.
  cases h with
  | @unplanned e f₁ _ hplan hopen hfail =>
    rw [hplan] at hasked
    obtain ⟨f', hfailed, hyields, -⟩ := FlightWork.fail_spec e hopen
    cases hfail.symm.trans hfailed
    have hcalls := (hasked.then_none hyields.consults).calls_eq hjournal
    exact ⟨f.run.history, [], [], by simp [Update.closing], .unproduced hlog hcalls .unasked⟩
  | @unproduced e f₁ f₂ _ hplan hproduce hopen hfail =>
    rw [hplan] at hasked
    obtain ⟨calls, hgenerates, hanswered⟩ := produce_calls (planned_of_plan hplan)
    rw [hproduce] at hgenerates hanswered
    obtain ⟨f', hfailed, hyields, -⟩ := FlightWork.fail_spec e hopen
    cases hfail.symm.trans hfailed
    have hcalls := ((hasked.trans hgenerates).then_none hyields.consults).calls_eq hjournal
    exact ⟨f.run.history, [], [], by simp [Update.closing], .unproduced hlog hcalls hanswered⟩
  | @produced f₁ f₂ _ generated later hplan hproduce hrest hstatus hhistory =>
    rw [hplan] at hasked
    obtain ⟨calls, hgenerates, hanswered⟩ := produce_calls (planned_of_plan hplan)
    rw [hproduce] at hgenerates hanswered
    have hedge : f₂.session.status.canMoveTo .validating = true := by
      rw [hstatus]
      rfl
    have hopens := FlightWork.orFail_goes (FlightWork.settle_opens config
      (f₂.session.maxAttempts - f₂.session.attempts) hedge)
    have hgoes := FlightWork.orFail_goes (FlightWork.settle_goes config
      (f₂.session.maxAttempts - f₂.session.attempts + 1) f₂)
    rw [hrest] at hopens hgoes
    obtain ⟨zs, hmoves, -⟩ := hgoes
    obtain ⟨entry, rest, hphase, hopened, -⟩ := hopens.after_moved
    have hlater : later = entry :: rest := List.append_cancel_left (hhistory.symm.trans hopened)
    have hcalls := ((hasked.trans hgenerates).trans hmoves.consults).calls_eq hjournal
    refine ⟨f₂.run.history, _, later, ?_, .produced (hhistory ▸ hlog) hcalls hanswered
      (FlightWork.produce_last hproduce) (produce_early hplan hproduce hstatus) ⟨entry, ?_, hphase⟩⟩
    · simp only [Update.closing, List.append_assoc]
    · rw [hlater]
      rfl

/-- A stream on a request, asked for everything at once or for one update after the other until
there are no more, hands out the log of its run, with the chunks of the component in between if one
was generated, and at last its session, which has ended. -/
theorem UpdateStream.toEnd_layout (config : Config) (request : ComponentRequest) (w : World σ π) :
    ∃ f before chunks after effects,
      let updates :=
        before.map .log ++ chunks.map .chunk ++ after.map .log ++ [.finished f.session]
      toEnd { config, request } w = (updates, { config, request, stage := .ended }, f.world) ∧
      (∀ extra, take (updates.length + extra) { config, request } w =
        (updates, { config, request, stage := .ended }, f.world)) ∧
      FlightWork.runAs .streaming config request (Flight.start config request w) = .ok () f ∧
      f.session.status.isTerminal = true ∧ f.run.history = before ++ after ∧
      f.world.journal = w.journal ++ effects ∧
      Layout config request effects before chunks after := by
  obtain ⟨updates, f, htoEnd, htake, hrun, hstreamed⟩ := toEnd_streamed config request w
  obtain ⟨creation, steps, hsince⟩ := FlightWork.runAs_since hrun
  obtain ⟨report, w', hreport, hended⟩ := Entry.streaming.run_ended config request w
  obtain ⟨f', hrun', hentry⟩ := Entry.streaming.run_eq config request w
  cases hrun.symm.trans hrun'
  cases hreport.symm.trans hentry
  have hlog : f.run.history = List.filterMap Effect.logged?
      (.store (.createSession (Flight.start config request w).session) creation :: steps) :=
    hsince.history
  obtain ⟨before, chunks, after, rfl, hlayout⟩ := hstreamed.layout hsince.moves.journal hlog
  exact ⟨f, before, chunks, after, _, htoEnd, htake, hrun, hended.isTerminal,
    hlog.trans hlayout.log.symm, hsince.moves.journal, hlayout⟩

end ArtifactPipeline
