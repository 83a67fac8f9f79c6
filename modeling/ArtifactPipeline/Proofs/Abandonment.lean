import ArtifactPipeline.Proofs.Charges
import ArtifactPipeline.Proofs.Updates

/-!
# Streams that are abandoned

A stream works only when it is asked for an update. So what has been done when nobody asks any more
is the beginning of what a whole run does. A consumer that takes no more than the chunks of the
component leaves a session that streams: it has not been validated, and nothing that comes after
a validation has been done for it.
-/

namespace ArtifactPipeline

variable {σ π : Type}

/-! ## The journal of a stream -/

/-- The journal of the work on a session only grows. -/
theorem Flight.Goes.journal {f f' : Flight σ π} (h : f.Goes f') :
    f.world.journal <+: f'.world.journal := by
  obtain ⟨effects, hmoves, -⟩ := h
  exact ⟨effects, hmoves.journal.symm⟩

namespace Stage

/-- A stream that is aborted fails the session, and nothing else happens to the world. -/
theorem abort_world (failure : Failure) (f : Flight σ π) :
    (abort failure f).2.2 = (endState (FlightWork.fail failure f)).world := by
  rw [abort]
  cases FlightWork.fail failure f with
  | ok _ f' => rfl
  | error _ f' => rfl

variable [ModelService σ] [Publisher π]

/-- What a stage does is written behind what was done before. -/
theorem work_journal (config : Config) (request : ComponentRequest) (w : World σ π)
    (stage : Stage) : w.journal <+: (stage.work config request w).2.2.journal := by
  cases stage with
  | opening =>
    obtain ⟨creation, entry, unlogged, hsince⟩ := Flight.start_since config request w
    have hstart : w.journal <+: (Flight.start config request w).world.journal :=
      ⟨_, hsince.moves.journal.symm⟩
    have hplan := (FlightWork.plan_goes config (Flight.start config request w)).journal
    rw [work, open?]
    generalize FlightWork.plan config (Flight.start config request w) = result at hplan
    cases result with
    | ok _ f => exact hstart.trans hplan
    | error _ f => exact hstart.trans hplan
  | planned run =>
    have hproduce := (FlightWork.produce_goes config request.prompt .streaming
      "Streaming component" ⟨run, w⟩).journal
    rw [work, produce]
    generalize FlightWork.produce config request.prompt .streaming "Streaming component" ⟨run, w⟩ =
      result at hproduce
    cases result with
    | ok _ f => exact hproduce
    | error e f =>
      have hfail := (FlightWork.fail_goes e f).journal
      rw [← abort_world] at hfail
      exact hproduce.trans hfail
  | checking run =>
    have hround := (FlightWork.round_goes config ⟨run, w⟩).journal
    rw [work, check]
    generalize FlightWork.round config ⟨run, w⟩ = result at hround
    rcases result with ⟨_ | _, f⟩ | ⟨_, f⟩
    · exact hround
    · exact hround
    · exact hround
  | failing run failure =>
    have hfail := (FlightWork.fail_goes failure ⟨run, w⟩).journal
    rwa [← abort_world] at hfail
  | ended => exact List.prefix_rfl

end Stage

namespace UpdateStream

variable [ModelService σ] [Publisher π]

/-- Asking a stream for an update only adds to the journal. -/
theorem next_journal (s : UpdateStream) (w : World σ π) :
    w.journal <+: (s.next w).2.2.journal := by
  have hwork := s.stage.work_journal s.config s.request w
  rw [next]
  cases s.ready with
  | cons update ready => exact List.prefix_rfl
  | nil =>
    generalize s.stage.work s.config s.request w = result at hwork
    obtain ⟨_ | ⟨update, ready⟩, stage, w'⟩ := result
    · exact hwork
    · exact hwork

/-- Asking a stream for some updates only adds to the journal. -/
theorem take_journal (count : Nat) (s : UpdateStream) (w : World σ π) :
    w.journal <+: (take count s w).2.2.journal := by
  induction count generalizing s w with
  | zero => exact List.prefix_rfl
  | succ count ih =>
    have hnext := s.next_journal w
    rw [take]
    generalize s.next w = result at hnext
    obtain ⟨_ | update, s', w'⟩ := result
    · exact hnext
    · exact hnext.trans (ih s' w')

/-- Who asks for fewer updates is handed the first of them, and the stream has done the beginning of
what it does otherwise. -/
theorem take_of_le {m n : Nat} (h : n ≤ m) (s : UpdateStream) (w : World σ π) :
    (take n s w).1 = (take m s w).1.take n ∧
      (take n s w).2.2.journal <+: (take m s w).2.2.journal := by
  induction n generalizing m s w with
  | zero => exact ⟨rfl, s.take_journal m w⟩
  | succ n ih =>
    obtain ⟨m, rfl⟩ : ∃ k, m = k + 1 := ⟨m - 1, by omega⟩
    rw [take, take]
    obtain ⟨_ | update, s', w'⟩ := s.next w
    · exact ⟨rfl, List.prefix_rfl⟩
    · obtain ⟨hupdates, hjournal⟩ := ih (Nat.le_of_succ_le_succ h) s' w'
      exact ⟨congrArg (update :: ·) hupdates, hjournal⟩

/-! ## Where a stream stands -/

section Cut

variable {config : Config} {request : ComponentRequest} {w w' : World σ π} {stage next : Stage}
  {now : List Update} {count : Nat}

/-- As long as updates are ready, nothing is done. -/
theorem take_ready_world {ready : List Update} (h : count ≤ ready.length) :
    (take count { config, request, stage, ready } w).2.2 = w := by
  induction ready generalizing count with
  | nil =>
    obtain rfl : count = 0 := Nat.le_zero.mp h
    rfl
  | cons update ready ih =>
    cases count with
    | zero => rfl
    | succ count =>
      rw [take]
      exact ih (Nat.le_of_succ_le_succ h)

/-- The first update that a stage gives takes all of its work, and the others take no more. -/
theorem take_work_world (hwork : stage.work config request w = (now, next, w'))
    (hsome : 0 < count) (hcount : count ≤ now.length) :
    (take count { config, request, stage } w).2.2 = w' := by
  obtain ⟨count, rfl⟩ : ∃ k, count = k + 1 := ⟨count - 1, by omega⟩
  obtain ⟨update, ready, rfl⟩ : ∃ update ready, now = update :: ready :=
    List.exists_cons_of_length_pos (by omega)
  rw [take]
  simp only [UpdateStream.next, hwork]
  exact take_ready_world (Nat.le_of_succ_le_succ hcount)

end Cut

end UpdateStream

/-! ## Before the first validation -/

/-- Effects none of which belongs to a validation or to what follows one. -/
structure Unvalidated (effects : List Effect) : Prop where
  audits : effects.filterMap Effect.audit? = []
  repairs : ∀ call ∈ effects.filterMap Effect.modelCall?, call.1.isRepair = false
  reviews : effects.filterMap Effect.review? = []
  published : effects.filterMap Effect.published? = []
  uses : effects.filterMap Effect.use? = []

/-- What begins a journal without a validation has none either. -/
theorem Unvalidated.of_isPrefix {xs ys : List Effect} (h : Unvalidated ys) (hxs : xs <+: ys) :
    Unvalidated xs where
  audits := List.prefix_nil.mp (h.audits ▸ hxs.filterMap _)
  repairs call hcall := h.repairs call ((hxs.filterMap _).subset hcall)
  reviews := List.prefix_nil.mp (h.reviews ▸ hxs.filterMap _)
  published := List.prefix_nil.mp (h.published ▸ hxs.filterMap _)
  uses := List.prefix_nil.mp (h.uses ▸ hxs.filterMap _)

section Produced

variable [ModelService σ] {config : Config} {request : ComponentRequest} {w : World σ π}
  {f₁ f₂ : Flight σ π} {generated : Generated}

/-- Up to the end of the generation no use of a pattern is to be counted. -/
theorem produce_posts
    (hplan : FlightWork.plan config (Flight.start config request w) = .ok () f₁)
    (hproduce : FlightWork.produce config request.prompt .streaming "Streaming component" f₁ =
      .ok generated f₂) :
    ∃ spent, w.Posts { spent } f₂.world := by
  have hstart := Flight.start_posts config request w
  have hplans := FlightWork.plan_charges config (f := Flight.start config request w) rfl
  rw [hplan] at hplans
  cases hplans with
  | @planned spent _ hposts _ hopen _ =>
    have hphase : f₁.session.status.canMoveTo .streaming = true := by
      rw [(planned_of_plan hplan).status]
      rfl
    have hsettles := FlightWork.produce_settles config request.prompt "Streaming component" hphase
      rfl hopen
    rw [hproduce] at hsettles
    obtain ⟨⟨later, hcharges⟩, hopen₂⟩ := hsettles
    have hworld := (hstart.after_quiet hposts).trans hcharges.world
    rw [Session.counts_of_open hopen₂] at hworld
    exact ⟨spent ++ later, hworld⟩

/-- Nothing that is done up to the end of the generation belongs to a validation. -/
theorem produce_unvalidated {effects : List Effect}
    (hplan : FlightWork.plan config (Flight.start config request w) = .ok () f₁)
    (hproduce : FlightWork.produce config request.prompt .streaming "Streaming component" f₁ =
      .ok generated f₂) (hjournal : f₂.world.journal = w.journal ++ effects) :
    Unvalidated effects := by
  obtain ⟨spent, posted, hmoves, hledger⟩ := produce_posts hplan hproduce
  obtain rfl : posted = effects :=
    List.append_cancel_left (hmoves.journal.symm.trans hjournal)
  rcases produce_outcome request.prompt "Streaming component" (planned_of_plan hplan) (Or.inr rfl)
    (by decide) with ⟨generated', f', hproduce', hunderway⟩ | ⟨e, f', hproduce', -⟩
  · cases hproduce.symm.trans hproduce'
    obtain ⟨opening, repairs, ⟨reached, hreached, htally⟩, hopening, hrepairs⟩ := hunderway.reaches
    obtain rfl : reached = posted :=
      List.append_cancel_left (hreached.journal.symm.trans hjournal)
    have hcalls : repairs.calls = [] := List.eq_nil_of_length_eq_zero hrepairs.calls
    have haudits : repairs.audits = [] := List.eq_nil_of_length_eq_zero hrepairs.audits
    refine ⟨?_, ?_, ?_, ?_, congrArg Ledger.uses hledger⟩
    · have hsum := congrArg Tally.audits htally
      rwa [Tally.audits_append, hopening.audits, haudits] at hsum
    · have hsum := congrArg Tally.calls htally
      rw [Tally.calls_append, hcalls, List.append_nil] at hsum
      intro call hcall
      exact hopening.repairs call (hsum ▸ hcall)
    · have hsum := congrArg Tally.reviews htally
      rwa [Tally.reviews_append, hopening.reviews, hrepairs.reviews] at hsum
    · have hsum := congrArg Tally.published htally
      rwa [Tally.published_append, hopening.published, hrepairs.published] at hsum
  · cases hproduce.symm.trans hproduce'

/-- At the end of the generation, the session was stored last as one that streams. -/
theorem produce_stored {effects : List Effect}
    (hplan : FlightWork.plan config (Flight.start config request w) = .ok () f₁)
    (hproduce : FlightWork.produce config request.prompt .streaming "Streaming component" f₁ =
      .ok generated f₂) (hjournal : f₂.world.journal = w.journal ++ effects) :
    ∃ s failure, (effects.filterMap Effect.update?).getLast? = some (s, failure) ∧
      s.id = w.freshId.1 ∧ s.status = .streaming := by
  obtain ⟨creation, steps, hsince⟩ := produce_since hplan hproduce
  obtain rfl : effects = _ :: steps :=
    List.append_cancel_left (hjournal.symm.trans hsince.moves.journal)
  have hstatus : f₂.run.session.status = .streaming :=
    UpdateStream.produced_status (planned_of_plan hplan) hproduce
  have hmoved : f₂.run.session.status ≠ .pending := by
    rw [hstatus]
    decide
  obtain ⟨s, failure, hlast, hs⟩ := hsince.steps.stored_status hmoved
  refine ⟨s, failure, ?_, ?_, hs.trans hstatus⟩
  · rw [List.filterMap_cons_none rfl]
    exact hlast
  · exact hsince.steps.owns.updates (s, failure) (List.mem_of_getLast? hlast)

variable {w' : World σ π} {done : List Effect}

/-- Wherever a consumer stops up to the end of the generation, nothing of a validation was done. -/
theorem unvalidated_of_place
    (hplan : FlightWork.plan config (Flight.start config request w) = .ok () f₁)
    (hproduce : FlightWork.produce config request.prompt .streaming "Streaming component" f₁ =
      .ok generated f₂) (hplace : w' = w ∨ w' = f₁.world ∨ w' = f₂.world)
    (hjournal : w'.journal = w.journal ++ done) : Unvalidated done := by
  obtain ⟨spent, effects, hmoves, -⟩ := produce_posts hplan hproduce
  have hlate : w'.journal <+: f₂.world.journal := by
    rcases hplace with rfl | rfl | rfl
    · exact ⟨effects, hmoves.journal.symm⟩
    · have hgoes :=
        FlightWork.produce_goes config request.prompt .streaming "Streaming component" f₁
      rw [hproduce] at hgoes
      exact hgoes.journal
    · exact List.prefix_rfl
  rw [hjournal, hmoves.journal, List.prefix_append_right_inj] at hlate
  exact (produce_unvalidated hplan hproduce hmoves.journal).of_isPrefix hlate

/-- Only the generation asks the model a second time, so a session for which that was done streams.
-/
theorem stored_of_place {call : ModelRequest × Except Failure ModelResponse}
    (hplan : FlightWork.plan config (Flight.start config request w) = .ok () f₁)
    (hproduce : FlightWork.produce config request.prompt .streaming "Streaming component" f₁ =
      .ok generated f₂) (hplace : w' = w ∨ w' = f₁.world ∨ w' = f₂.world)
    (hjournal : w'.journal = w.journal ++ done)
    (hasked : (done.filterMap Effect.modelCall?)[1]? = some call) :
    ∃ s failure, (done.filterMap Effect.update?).getLast? = some (s, failure) ∧
      s.id = w.freshId.1 ∧ s.status = .streaming := by
  rcases hplace with rfl | rfl | rfl
  · obtain rfl : done = [] := List.self_eq_append_right.mp hjournal
    cases hasked
  · obtain ⟨result, hconsults⟩ := plan_calls config request w
    rw [hplan] at hconsults
    rw [hconsults.calls_eq hjournal] at hasked
    cases hasked
  · exact produce_stored hplan hproduce hjournal

variable [Publisher π]

/-- A consumer that takes no more than the chunks of the component finds the world as it was before
the stream, after planning or after the generation. -/
theorem UpdateStream.take_produced_world {count : Nat}
    (hplan : FlightWork.plan config (Flight.start config request w) = .ok () f₁)
    (hproduce : FlightWork.produce config request.prompt .streaming "Streaming component" f₁ =
      .ok generated f₂)
    (hcount : count ≤ f₂.run.history.length +
      (Chunk.cut config.pipeline.chunkSize generated.code.toList).length) :
    (take count { config, request } w).2.2 = w ∨
      (take count { config, request } w).2.2 = f₁.world ∨
      (take count { config, request } w).2.2 = f₂.world := by
  have hopening : Stage.opening.work config request w =
      (Stage.logs f₁, .planned (Stage.drained f₁), f₁.world) := by
    rw [Stage.work, Stage.open?, hplan]
  obtain ⟨hlogs, hsome⟩ := Flight.logs_plan (f := f₁) (by rw [hplan]; rfl)
  have hlength : (Stage.logs f₁).length = f₁.run.history.length := by
    rw [hlogs, List.length_map]
  obtain ⟨now, hnow, hplanned⟩ := planned_work (planned_of_plan hplan) hproduce
  have hhistory := congrArg List.length hnow
  rw [List.length_append] at hhistory
  rcases Nat.eq_zero_or_pos count with rfl | hpos
  · exact Or.inl rfl
  by_cases hfirst : count ≤ (Stage.logs f₁).length
  · exact Or.inr (Or.inl (take_work_world hopening hpos hfirst))
  · obtain ⟨more, rfl⟩ : ∃ more, count = (Stage.logs f₁).length + more :=
      ⟨count - (Stage.logs f₁).length, by omega⟩
    rw [HandsOut.take_work more hopening hsome]
    refine Or.inr (Or.inr (take_work_world hplanned (by omega) ?_))
    rw [List.length_append, List.length_map, List.length_map]
    omega

end Produced

/-! ## Abandoned streams -/

/-- There is no chunk among the last updates. -/
theorem Update.chunk_not_mem_closing (chunk : Chunk) (entries : List LogEntry)
    (session : Session) : Update.chunk chunk ∉ closing entries session := by
  simp [closing]

/-- Where the last chunk stands among the updates of a stream. -/
theorem Update.last_chunk (before later : List LogEntry) {chunks : List Chunk} (session : Session)
    (hchunks : chunks ≠ []) :
    let updates := before.map .log ++ chunks.map .chunk ++ closing later session
    ∃ last chunk, last + 1 = before.length + chunks.length ∧
      updates[last]? = some (.chunk chunk) ∧
      ∀ i chunk, updates[i]? = some (.chunk chunk) → i ≤ last := by
  obtain ⟨init, final, rfl⟩ := (List.eq_nil_or_concat' chunks).resolve_left hchunks
  intro updates
  have hlength : (before.map Update.log ++ (init ++ [final]).map Update.chunk).length =
      before.length + init.length + 1 := by simp [Nat.add_assoc]
  refine ⟨before.length + init.length, final, by simp [Nat.add_assoc], ?_, fun i chunk hi => ?_⟩
  · rw [List.getElem?_append_left (by omega), List.getElem?_append_right (by simp)]
    simp
  · by_contra hlate
    rw [List.getElem?_append_right (by omega)] at hi
    exact chunk_not_mem_closing _ _ _ (List.mem_of_getElem? hi)

/-- A stream that hands out no chunk had no component. -/
theorem Layout.no_chunks {config : Config} {request : ComponentRequest} {effects : List Effect}
    {before after : List LogEntry} {chunks : List Chunk} {updates : List Update}
    {session : Session} (h : Layout config request effects before chunks after)
    (hupdates : updates =
      before.map .log ++ chunks.map .chunk ++ after.map .log ++ [.finished session])
    (hnone : ∀ chunk, Update.chunk chunk ∉ updates) (call : ModelRequest)
    (response : ModelResponse) :
    (effects.filterMap Effect.modelCall?)[1]? ≠ some (call, .ok response) := by
  intro hcall
  obtain ⟨chunk, hchunk⟩ := List.exists_mem_of_ne_nil _ (h.present.mpr ⟨call, response, hcall⟩)
  refine hnone chunk ?_
  rw [hupdates]
  simp [hchunk]

/-- A stream that is asked for some updates has done the beginning of what a whole run does. If the
component was generated, and no more was asked for than its last chunk, then nothing of a validation
or of what follows one was done for the session; and if its generation was among the things done,
the session was stored last as one that streams. -/
theorem UpdateStream.take_abandons [ModelService σ] [Publisher π] (config : Config)
    (request : ComponentRequest) (w : World σ π) (count : Nat) :
    let taken := take count { config, request } w
    let full := toEnd { config, request } w
    ∃ done later, taken.2.2.journal = w.journal ++ done ∧
      full.2.2.journal = w.journal ++ (done ++ later) ∧ taken.1 = full.1.take count ∧
      ∀ call response,
        ((done ++ later).filterMap Effect.modelCall?)[1]? = some (call, .ok response) →
        call.Generates config request.prompt ∧
        ∃ last chunk, full.1[last]? = some (.chunk chunk) ∧
          (∀ i chunk, full.1[i]? = some (.chunk chunk) → i ≤ last) ∧
          (count ≤ last + 1 → Unvalidated done ∧
            ((done.filterMap Effect.modelCall?)[1]? = some (call, .ok response) →
              ∃ s failure, (done.filterMap Effect.update?).getLast? = some (s, failure) ∧
                s.id = w.freshId.1 ∧ s.status = .streaming)) := by
  intro taken full
  obtain ⟨updates, f, hfull, htake, hrun, hstreamed⟩ := toEnd_streamed config request w
  obtain ⟨f', before, chunks, after, effects, hfull', -, hrun', -, -, hjournal, hlayout⟩ :=
    toEnd_layout config request w
  cases hrun.symm.trans hrun'
  obtain ⟨hupdates, -⟩ := Prod.mk.inj (hfull.symm.trans hfull')
  -- The whole run is the stream that is asked for everything.
  obtain ⟨hfirst, later, hlater⟩ :=
    take_of_le (Nat.le_add_left count updates.length) { config, request } w
  obtain ⟨done, hdone⟩ := take_journal count { config, request } w
  rw [htake] at hfirst hlater
  have hsplit : effects = done ++ later := by
    have hboth : w.journal ++ effects = w.journal ++ (done ++ later) := by
      rw [← hjournal, ← hlater, ← hdone, List.append_assoc]
    exact List.append_cancel_left hboth
  subst hsplit
  refine ⟨done, later, hdone.symm, ?_, ?_, fun call response hcall => ?_⟩
  · rw [show full = _ from hfull]
    exact hjournal
  · rw [show full = _ from hfull]
    exact hfirst
  refine ⟨hlayout.generation _ hcall, ?_⟩
  rw [show full = _ from hfull]
  cases hstreamed with
  | unplanned | unproduced =>
    have hnone := hlayout.no_chunks hupdates (fun chunk => Update.chunk_not_mem_closing chunk _ _)
    exact absurd hcall (hnone call response)
  | @produced f₁ f₂ _ generated _ hplan hproduce =>
    obtain ⟨last, chunk, hplace, hchunk, hbound⟩ :=
      Update.last_chunk f₂.run.history _ f.session
        (Chunk.cut_ne_nil config.pipeline.chunkSize generated.code.toList)
    refine ⟨last, chunk, hchunk, hbound, fun hcount => ?_⟩
    have hworld := take_produced_world hplan hproduce (hplace ▸ hcount)
    refine ⟨unvalidated_of_place hplan hproduce hworld hdone.symm, fun hasked => ?_⟩
    exact stored_of_place hplan hproduce hworld hdone.symm hasked

end ArtifactPipeline
