import ArtifactPipeline.Proofs.Counterparts
import ArtifactPipeline.Proofs.StoredReport
import ArtifactPipeline.Proofs.Streams

/-!
# Runs that complete

If the store can be read and the model replies to every request with the same component, nothing on
which a run depends can fail. If the component also passes, the first round of validation completes
the session with it.
-/

namespace ArtifactPipeline

variable {σ π α β : Type}

/-- In states of some kind a model replies to each request with the same code, and is in a state of
that kind afterwards. -/
def ModelService.Supplies [ModelService σ] (P : σ → Prop) (code : String) : Prop :=
  ∀ model request, P model → ∃ response model', invoke request model = (.ok response, model') ∧
    P model' ∧ String.ofList (Component.extractCode response.content.toList) = code

namespace World

/-- The store of a world can be read, and its model is in a state of some kind. -/
structure Serves (P : σ → Prop) (w : World σ π) : Prop where
  readable : ∀ method number, method.isRead = true → w.faults method number = false
  online : w.store.offline = false
  model : P w.model

variable {P : σ → Prop} {w : World σ π}

/-- What is recorded in the store does not keep it from being read. -/
theorem Serves.write (h : w.Serves P) {c : StoreCall} (hc : c.method.isRecord = true) :
    (w.write c).2.Serves P := by
  obtain ⟨failure, store, heq, hconsulted⟩ := w.write_eq c
  rw [heq]
  exact ⟨h.readable, (congrArg MemoryStore.offline (hconsulted hc)).trans h.online, h.model⟩

/-- A reading is answered. -/
theorem Serves.call (h : w.Serves P) {c : StoreCall} (hc : c.method.isRead = true) :
    ∃ answer w', w.call c = (.ok answer, w') ∧ w'.Serves P := by
  obtain ⟨answer, hanswer⟩ : ∃ answer, w.store.call c = .ok (answer, w.store) := by
    cases c with
    | listPatterns | getPattern | activeRules | allowlist =>
      simp [MemoryStore.call, h.online, MemoryStore.answer]
    | _ => cases hc
  have hreply : w.reply c = .ok (answer, w.store) := by
    rw [reply, h.readable _ _ hc]
    exact hanswer
  exact ⟨answer, { w with journal := w.journal ++ [.store c none] }, by rw [World.call, hreply],
    h.readable, h.online, h.model⟩

end World

namespace Work

/-- The work succeeds with a result of some kind in every world that serves, and the world serves
afterwards. -/
def Succeeds (P : σ → Prop) (Q : α → Prop) (x : Work σ π α) : Prop :=
  ∀ w : World σ π, w.Serves P → ∃ a w', x w = .ok a w' ∧ Q a ∧ w'.Serves P

variable {P : σ → Prop} {Q : α → Prop} {R : β → Prop} {code : String}

/-- Work that only gives a value of the kind succeeds. -/
theorem Succeeds.pure {a : α} (h : Q a) : Succeeds P Q (Pure.pure a : Work σ π α) :=
  fun w hw => ⟨a, w, rfl, h, hw⟩

/-- Work in two parts succeeds if the first part does, and the second does with whatever the
first may give. -/
theorem Succeeds.bind {x : Work σ π α} {g : α → Work σ π β} (hx : Succeeds P Q x)
    (hg : ∀ a, Q a → Succeeds P R (g a)) : Succeeds P R (x >>= g) := by
  intro w hw
  obtain ⟨a, w', hfirst, ha, hw'⟩ := hx w hw
  obtain ⟨b, w'', hrest, hb⟩ := hg a ha w' hw'
  exact ⟨b, w'', (bind_ok g hfirst).trans hrest, hb⟩

/-- A reading of the store is answered. -/
theorem store_succeeds (c : StoreCall) (hc : c.method.isRead = true) :
    Succeeds P (fun _ => True) (Work.store c : Work σ π c.Answer) := by
  intro w hw
  obtain ⟨answer, w', hcall, hw'⟩ := hw.call hc
  refine ⟨answer, w', ?_, trivial, hw'⟩
  simp only [Work.store, ofOutcome, hcall]
  rfl

/-- A call of the model is answered with a reply from which the code is extracted. -/
theorem invoke_succeeds [ModelService σ] (h : ModelService.Supplies P code)
    (request : ModelRequest) : Succeeds P
      (fun response => String.ofList (Component.extractCode response.content.toList) = code)
      (Work.invoke request : Work σ π ModelResponse) := by
  intro w hw
  obtain ⟨response, model, hinvoke, hmodel, hcode⟩ := h w.model request hw.model
  refine ⟨response, { w with model, journal := w.journal ++ [.model request (.ok response)] }, ?_,
    hcode, hw.readable, hw.online, hmodel⟩
  simp only [Work.invoke, ofOutcome, World.invoke, hinvoke]

/-- A plan is made, whatever the model replies to the classification: a reply that makes no
sense counts as the default. -/
theorem makePlan_succeeds [ModelService σ] (h : ModelService.Supplies P code) (config : Config)
    (prompt : String) (mood : Mood) :
    Succeeds P (fun _ => True) (makePlan config prompt mood : Work σ π PlanningOutcome) := by
  have hclassify : Succeeds P (fun _ => True)
      (classify config prompt : Work σ π ClassificationOutcome) :=
    (invoke_succeeds h _).bind fun _ _ => .pure trivial
  have hsimilar (intent : Intent) :
      Succeeds P (fun _ => True) (findSimilar intent : Work σ π (List PatternReference)) := by
    refine (store_succeeds _ rfl).bind fun sameIntent _ => ?_
    split
    · exact (store_succeeds _ rfl).bind fun _ _ => .pure trivial
    · exact .pure trivial
  exact hclassify.bind fun _ _ => (hsimilar _).bind fun _ _ => .pure trivial

/-- The search for code to show in a prompt leaves the world as useful as it was. -/
theorem referenceSnippet_serves (chars : Nat) (references : List PatternReference)
    {w : World σ π} (hw : w.Serves P) : (referenceSnippet chars references w).2.Serves P := by
  induction references generalizing w with
  | nil => exact hw
  | cons reference references ih =>
    obtain ⟨answer, w', hcall, hw'⟩ := hw.call (c := .getPattern reference.id) rfl
    simp only [referenceSnippet, hcall]
    split
    · exact hw'
    · exact ih hw'

/-- A generation gives the code that the model replies with. -/
theorem generate_succeeds [ModelService σ] (h : ModelService.Supplies P code) (config : Config)
    (tenant : String) (plan : Plan) (prompt : String) :
    Succeeds P (fun generated => generated.code = code)
      (generate config tenant plan prompt : Work σ π Generated) := by
  have hsnippet : Succeeds P (fun _ => True) (modifyGet (m := Work σ π)
      (referenceSnippet config.pipeline.snippetChars plan.similarPatterns)) := fun w hw =>
    ⟨_, _, rfl, trivial, referenceSnippet_serves _ _ hw⟩
  have hprompt : Succeeds P (fun _ => True)
      (generationPrompt config tenant plan : Work σ π String) :=
    (store_succeeds _ rfl).bind fun _ _ => hsnippet.bind fun _ _ => .pure trivial
  exact hprompt.bind fun _ _ => (invoke_succeeds h _).bind fun _ hcode => .pure hcode

/-- A validation comes to a verdict. -/
theorem validate_succeeds (text : String) (session : Option SessionId) (tenant : String) :
    Succeeds P (fun _ => True) (validate text session tenant : Work σ π Verdict) := by
  refine (store_succeeds _ rfl).bind fun rules _ => ?_
  refine (store_succeeds _ rfl).bind fun allowlist _ => ?_
  refine Succeeds.bind (Q := fun _ => True) (fun w hw => ?_) fun verdict _ =>
    Succeeds.bind (Q := fun _ => True) (fun w hw => ?_) fun _ _ => .pure trivial
  · exact ⟨_, _, rfl, trivial, hw.readable, hw.online, hw.model⟩
  · have htimed : w.now.2.Serves P := ⟨hw.readable, hw.online, hw.model⟩
    exact ⟨_, _, rfl, trivial, htimed.write rfl⟩

end Work

namespace Flight

variable {P : σ → Prop} {f : Flight σ π}

/-- A flight that moved to another status is in a world that serves. -/
theorem moved_serves (h : f.world.Serves P) (next : Status) (message : String) (data : Json.Value) :
    (f.moved next message data).world.Serves P := by
  have htimed : f.world.now.2.now.2.Serves P := ⟨h.readable, h.online, h.model⟩
  exact (htimed.write (c := .appendLog _) rfl).write (c := .updateSession _) rfl

/-- A flight that said something in the log is in a world that serves. -/
theorem log_serves (h : f.world.Serves P) (level : LogLevel) (message : String)
    (data : Json.Value) : (f.log level message data).world.Serves P := by
  have htimed : f.world.now.2.Serves P := ⟨h.readable, h.online, h.model⟩
  exact htimed.write (c := .appendLog _) rfl

/-- A session that is created is in a world that serves. -/
theorem start_serves {w : World σ π} (h : w.Serves P) (config : Config)
    (request : ComponentRequest) : (start config request w).world.Serves P := by
  have htimed : w.freshId.2.now.2.Serves P := ⟨h.readable, h.online, h.model⟩
  let session := Session.new w.freshId.1 request config.pipeline.maxAttempts w.freshId.2.now.1
  exact log_serves
    (f := { run := { session }, world := (w.freshId.2.now.2.write (.createSession session)).2 })
    (htimed.write (c := .createSession _) rfl) _ _ _

end Flight

namespace FlightWork

variable {P : σ → Prop} {code : String} {f : Flight σ π}

/-- A move along an edge succeeds and changes nothing of the session but its status and its
bookkeeping. -/
theorem advance_succeeds (hserves : f.world.Serves P) (next : Status) (message : String)
    (data : Json.Value) (hedge : f.session.status.canMoveTo next = true) :
    ∃ f', advance next message data f = .ok () f' ∧ f'.world.Serves P ∧
      f'.session.core = { f.session.core with status := next } := by
  refine ⟨_, advance_eq next message data hedge, Flight.moved_serves hserves next message data, ?_⟩
  simp [Flight.moved, Session.core, Timeline.enter_created]

/-- A session that was just created is planned. -/
theorem plan_succeeds [ModelService σ] (h : ModelService.Supplies P code) (config : Config)
    (hserves : f.world.Serves P) (hstatus : f.session.status = .pending) :
    ∃ f', plan config f = .ok () f' ∧ f'.world.Serves P := by
  obtain ⟨f₁, hadvance, hserves₁, hcore₁⟩ := advance_succeeds hserves .planning
    "Classifying request" .null (by rw [hstatus]; rfl)
  have hopen₁ : f₁.session.status.isTerminal = false := by
    rw [show f₁.session.status = .planning from congrArg Session.status hcore₁]
    rfl
  obtain ⟨outcome, w, hmake, -, hw⟩ :=
    Work.makePlan_succeeds h config f₁.session.prompt f₁.session.mood f₁.world hserves₁
  rw [plan, bind_ok _ hadvance, get_bind, bind_ok _ (onWorld_ok hmake),
    step_bind _ (Session.modify_eq _ (by exact hopen₁)), modify_bind]
  exact ⟨_, rfl, Flight.log_serves hw _ _ _⟩

/-- A planned session that may generate gets the code of the model. -/
theorem produce_succeeds [ModelService σ] (h : ModelService.Supplies P code) (config : Config)
    (prompt : String) {phase : Status} (message : String) {plan : Plan}
    (hserves : f.world.Serves P) (hplan : f.session.plan = some plan)
    (hedge : f.session.status.canMoveTo phase = true) (hopen : phase.isTerminal = false) :
    ∃ generated f', produce config prompt phase message f = .ok generated f' ∧
      f'.world.Serves P ∧ f'.session.code = some code := by
  obtain ⟨f₁, hadvance, hserves₁, hcore₁⟩ := advance_succeeds hserves phase message
    (.obj [("model", .str plan.modelId)]) hedge
  have hopen₁ : f₁.session.status.isTerminal = false := by
    rwa [show f₁.session.status = phase from congrArg Session.status hcore₁]
  have hcurrent : currentPlan f = .ok plan f := by simp [currentPlan, hplan]
  obtain ⟨generated, w, hgenerate, hcode, hw⟩ :=
    Work.generate_succeeds h config f₁.session.tenant plan prompt f₁.world hserves₁
  have haccept : ∃ f', accept generated { f₁ with world := w } = .ok () f' ∧
      f'.world.Serves P ∧ f'.session.code = some generated.code := by
    rw [accept, step_bind _ (Session.modify_eq _ (by exact hopen₁)),
      step_bind _ (Session.modify_eq _ (by exact hopen₁))]
    exact ⟨_, rfl, Flight.log_serves hw _ _ _, rfl⟩
  obtain ⟨f', haccept, hserves', hcode'⟩ := haccept
  rw [produce, bind_ok _ hcurrent, bind_ok _ hadvance, get_bind, bind_ok _ (onWorld_ok hgenerate),
    bind_ok _ haccept]
  exact ⟨generated, f', rfl, hserves', hcode'.trans (congrArg some hcode)⟩

/-- A round on a component that passes completes the session. -/
theorem round_completes [ModelService σ] [Publisher π] (config : Config)
    (hserves : f.world.Serves P) (hedge : f.session.status.canMoveTo .validating = true)
    (hvalid : f.verdict.isValid = true) :
    ∃ f', round config f = .ok .finished f' ∧ f'.session.status = .completed ∧
      f'.session.code = f.session.code := by
  obtain ⟨f₁, hadvance, hyields₁, hcore₁⟩ := advance_quiet (f := f) .validating
    "Validating component" (.obj [("attempt", .nat f.session.attempts)]) hedge rfl
  obtain ⟨f₁, hadvance', hserves₁, -⟩ := advance_succeeds hserves .validating
    "Validating component" (.obj [("attempt", .nat f.session.attempts)]) hedge
  cases hadvance.symm.trans hadvance'
  have hstatus₁ : f₁.session.status = .validating := congrArg Session.status hcore₁
  have hopen₁ : f₁.session.status.isTerminal = false := by rw [hstatus₁]; rfl
  obtain ⟨verdict, w, hvalidate, -⟩ := Work.validate_succeeds f₁.code (some f₁.session.id)
    f₁.session.tenant f₁.world hserves₁
  have hjudgement := judgement_ends f₁
  rw [onWorld_ok hvalidate] at hjudgement
  cases hjudgement with
  | judged hyields₂ hreports hrun =>
    have hpassed : f₁.verdict.isValid = true := by rwa [hyields₁.verdict hcore₁]
    have hround : ∃ f', round config f = .ok .finished f' := by
      rw [round_eq, get_bind, bind_ok _ hadvance, get_bind, bind_ok _ (onWorld_ok hvalidate),
        conclude, step_bind _ (Session.modify_eq _ (by exact hopen₁)), if_pos hpassed, modify_bind,
        bind_ok _ (complete_eq _ (by exact hstatus₁))]
      exact ⟨_, rfl⟩
    obtain ⟨f', hround⟩ := hround
    have hends := round_ends config hedge
    rw [hround] at hends
    cases hends with
    | completed hyields hreports hvalid hcore =>
      exact ⟨f', hround, congrArg Session.status hcore, (congrArg Session.code hcore :)⟩
    | exhausted hyields hreports hinvalid | unrepaired hyields hreports hinvalid =>
      rw [hvalid] at hinvalid
      cases hinvalid

end FlightWork

/-- A run completes with the component that the model supplies, if the component passes and the
store can be read. -/
theorem Entry.run_completes [ModelService σ] [Publisher π] {P : σ → Prop} {code : String}
    (entry : Entry) (config : Config) (request : ComponentRequest) {w : World σ π}
    (hsupplies : ModelService.Supplies P code) (hserves : w.Serves P)
    (hvalid : (w.assess request.tenant code).isValid = true) :
    ∃ report w', entry.run config request w = some (report, w') ∧
      report.session.status = .completed ∧ report.session.code = some code := by
  obtain ⟨f₁, hplan, hserves₁⟩ := FlightWork.plan_succeeds hsupplies config
    (Flight.start_serves hserves config request) rfl
  have hplanned : Planned config request w f₁.session f₁.world := by
    rcases plan_outcome config request w with ⟨f, hplan', hplanned⟩ | ⟨e, f, hplan', -⟩
    · cases hplan.symm.trans hplan'
      exact hplanned
    · cases hplan.symm.trans hplan'
  obtain ⟨plan, hcurrent⟩ := hplanned.plan
  obtain ⟨generated, f₂, hproduce, hserves₂, hcode⟩ := FlightWork.produce_succeeds hsupplies config
    request.prompt entry.announcement hserves₁ hcurrent
    (by rw [hplanned.status]; exact entry.canMoveTo_phase) entry.phase_isTerminal
  have hunderway : Underway config request w 0 f₂.session f₂.world := by
    rcases produce_outcome request.prompt entry.announcement hplanned entry.phase_eq
      (by cases entry <;> decide) with ⟨_, f, hproduce', hunderway⟩ | ⟨e, f, hproduce', -⟩
    · cases hproduce.symm.trans hproduce'
      exact hunderway
    · cases hproduce.symm.trans hproduce'
  have hverdict : f₂.verdict = w.assess request.tenant code := by
    obtain ⟨_, _, hreaches, -⟩ := hunderway.reaches
    have htenant : f₂.session.tenant = request.tenant :=
      congrArg Origin.tenant hunderway.progress.origin
    rw [Flight.verdict, Flight.code, hcode, hreaches.assess, htenant]
    rfl
  obtain ⟨f₃, hround, hstatus, hkept⟩ := FlightWork.round_completes config hserves₂ hunderway.edge
    (by rwa [hverdict])
  have hrun := FlightWork.runAs_produced entry hplan hproduce
  have hsettled : FlightWork.settle config (f₂.session.maxAttempts - f₂.session.attempts + 1) f₂ =
      .ok () f₃ := by
    rw [FlightWork.settle, bind_ok _ hround]
    rfl
  rw [FlightWork.orFail_ok hsettled] at hrun
  obtain ⟨f, hrun', hresult⟩ := entry.run_eq config request w
  cases hrun.symm.trans hrun'
  exact ⟨_, _, hresult, hstatus, hkept.trans hcode⟩

end ArtifactPipeline
