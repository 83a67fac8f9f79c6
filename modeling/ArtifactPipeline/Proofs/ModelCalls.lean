import ArtifactPipeline.Proofs.PhaseSteps

/-!
# The calls of the model before the first validation

A session is classified with one call of the model, and its component is generated with another one.
Which calls were made, and what they were answered, is read off the journal: nothing else in
planning and generating asks the model.
-/

namespace ArtifactPipeline

variable {σ π α : Type}

/-- The request asks for a component for a prompt. -/
def ModelRequest.Generates (config : Config) (prompt : String) (r : ModelRequest) : Prop :=
  ∃ (plan : Plan) (instructions : String), r = {
    modelId := plan.modelId
    messages := [⟨.system, instructions⟩, ⟨.user, prompt⟩]
    temperature := config.pipeline.generationTemperature
    maxTokens := plan.estimatedTokens }

/-- The work takes a world to another one and makes some calls of the model on the way. -/
def World.Consults (calls : List (ModelRequest × Except Failure ModelResponse))
    (w w' : World σ π) : Prop :=
  ∃ effects, w'.journal = w.journal ++ effects ∧ effects.filterMap Effect.modelCall? = calls

namespace World.Consults

variable {w w₁ w₂ w₃ : World σ π}
  {xs ys : List (ModelRequest × Except Failure ModelResponse)}

/-- The calls of two pieces of work follow each other. -/
theorem trans (h₁ : w₁.Consults xs w₂) (h₂ : w₂.Consults ys w₃) : w₁.Consults (xs ++ ys) w₃ := by
  obtain ⟨effects₁, hjournal₁, rfl⟩ := h₁
  obtain ⟨effects₂, hjournal₂, rfl⟩ := h₂
  exact ⟨effects₁ ++ effects₂, by rw [hjournal₂, hjournal₁, List.append_assoc],
    List.filterMap_append⟩

/-- Work without calls may go before other work. -/
theorem after_none (h₁ : w₁.Consults [] w₂) (h₂ : w₂.Consults ys w₃) : w₁.Consults ys w₃ :=
  h₁.trans h₂

/-- Work without calls may follow other work. -/
theorem then_none (h₁ : w₁.Consults xs w₂) (h₂ : w₂.Consults [] w₃) : w₁.Consults xs w₃ := by
  simpa using h₁.trans h₂

/-- The calls of a move are those that its effects show. -/
theorem calls_eq {effects : List Effect} (h : w₁.Consults xs w₂)
    (hjournal : w₂.journal = w₁.journal ++ effects) :
    effects.filterMap Effect.modelCall? = xs := by
  obtain ⟨others, hothers, rfl⟩ := h
  rw [List.append_cancel_left (hjournal.symm.trans hothers)]

end World.Consults

/-- A move has made the calls that are among its effects. -/
theorem World.Moves.consults {effects : List Effect} {w w' : World σ π}
    (h : w.Moves effects w') : w.Consults (effects.filterMap Effect.modelCall?) w' :=
  ⟨effects, h.journal, rfl⟩

/-- The work on a world has made the calls of its tally. -/
theorem World.Yields.consults {t : Tally} {w w' : World σ π} (h : w.Yields t w') :
    w.Consults t.calls w' := by
  obtain ⟨effects, hmoves, -, rfl⟩ := h
  exact hmoves.consults

/-- The work on a flight has made the calls of its tally. -/
theorem Flight.Yields.consults {t : Tally} {f f' : Flight σ π} (h : f.Yields t f') :
    f.world.Consults t.calls f'.world := by
  obtain ⟨effects, hmoves, rfl⟩ := h
  exact hmoves.world.consults

/-- Work that may make no call of the model makes none. -/
theorem OpeningEnds.consults {w : World σ π} {result : EStateM.Result Failure (World σ π) α}
    (h : OpeningEnds 0 w result) : w.Consults [] (endState result) := by
  cases h with
  | done hyields hopening =>
    have hcalls := hyields.consults
    rwa [List.eq_nil_of_length_eq_zero (Nat.le_zero.mp hopening.calls)] at hcalls
  | failed kind hyields hopening =>
    have hcalls := hyields.consults
    rwa [Tally.calls_append, List.append_nil,
      List.eq_nil_of_length_eq_zero (Nat.le_zero.mp hopening.calls)] at hcalls

variable [ModelService σ]

/-- Making a plan asks the model once, for the classification. -/
theorem makePlan_consults (config : Config) (prompt : String) (mood : Mood) (w : World σ π) :
    ∃ result, w.Consults [(classificationRequest config prompt, result)]
      (endState (makePlan config prompt mood w)) := by
  rw [makePlan]
  rcases Work.invoke_cases (classificationRequest config prompt) w with
    ⟨response, w₁, hinvoke, hmoves⟩ | ⟨e, w₁, hinvoke, hmoves⟩
  · have hclassify : classify config prompt w = .ok _ w₁ := bind_ok _ hinvoke
    rw [bind_ok _ hclassify]
    refine ⟨.ok response, hmoves.consults.then_none (OpeningEnds.consults ?_)⟩
    exact .bind (n := 0) (findSimilar_ends _ w₁) fun _ w => .pure _ w
  · have hclassify : classify config prompt w = .error e w₁ := bind_error _ hinvoke
    rw [bind_error _ hclassify]
    exact ⟨.error e, hmoves.consults⟩

/-- The call of the model for a component: it was answered, and the component is the code of the
answer, or there is no component because it was refused or never made. -/
inductive Answered (config : Config) (prompt : String) :
    List (ModelRequest × Except Failure ModelResponse) → Option String → Prop
  | unasked : Answered config prompt [] none
  | refused {request : ModelRequest} {e : Failure} : request.Generates config prompt →
    Answered config prompt [(request, .error e)] none
  | answered {request : ModelRequest} {response : ModelResponse} :
    request.Generates config prompt →
    Answered config prompt [(request, .ok response)]
      (some (String.ofList (Component.extractCode response.content.toList)))

/-- The component that some work came to, if it came to one. -/
def generatedCode : EStateM.Result Failure α Generated → Option String
  | .ok generated _ => some generated.code
  | .error _ _ => none

/-- Generating a component asks the model at most once, and gives the code of its answer. -/
theorem generate_consults (config : Config) (tenant : String) (plan : Plan) (prompt : String)
    (w : World σ π) :
    ∃ calls, w.Consults calls (endState (generate config tenant plan prompt w)) ∧
      Answered config prompt calls (generatedCode (generate config tenant plan prompt w)) := by
  have hprompt := (generationPrompt_ends config tenant plan w).consults
  rw [generate]
  cases hresult : generationPrompt config tenant plan w with
  | error e w₁ =>
    rw [hresult] at hprompt
    rw [bind_error _ hresult]
    exact ⟨[], hprompt, .unasked⟩
  | ok instructions w₁ =>
    rw [hresult] at hprompt
    rw [bind_ok _ hresult]
    let request : ModelRequest := {
      modelId := plan.modelId
      messages := [⟨.system, instructions⟩, ⟨.user, prompt⟩]
      temperature := config.pipeline.generationTemperature
      maxTokens := plan.estimatedTokens }
    have hrequest : request.Generates config prompt := ⟨plan, instructions, rfl⟩
    rcases Work.invoke_cases request w₁ with
      ⟨response, w₂, hinvoke, hmoves⟩ | ⟨e, w₂, hinvoke, hmoves⟩
    · rw [bind_ok _ hinvoke]
      exact ⟨_, hprompt.after_none hmoves.consults, .answered hrequest⟩
    · rw [bind_error _ hinvoke]
      exact ⟨_, hprompt.after_none hmoves.consults, .refused hrequest⟩

namespace FlightWork

/-- Planning a new session asks the model once, for the classification of its prompt. -/
theorem plan_consults (config : Config) {f : Flight σ π} (hstatus : f.session.status = .pending) :
    ∃ result, f.world.Consults [(classificationRequest config f.session.prompt, result)]
      (endState (plan config f)).world := by
  obtain ⟨f₁, hadvance, hyields₁, hcore₁⟩ :=
    advance_quiet (f := f) .planning "Classifying request" .null (by rw [hstatus]; rfl) rfl
  have hprompt : f₁.session.prompt = f.session.prompt := (congrArg Session.prompt hcore₁ :)
  have hstatus₁ : f₁.session.status = .planning := congrArg Session.status hcore₁
  have hopen₁ : f₁.session.status.isTerminal = false := by rw [hstatus₁]; rfl
  obtain ⟨result, hmake⟩ :=
    makePlan_consults config f₁.session.prompt f₁.session.mood f₁.world
  rw [hprompt] at hmake
  refine ⟨result, hyields₁.consults.after_none ?_⟩
  rw [plan, bind_ok _ hadvance, get_bind, hprompt]
  cases hresult : makePlan config f.session.prompt f₁.session.mood f₁.world with
  | error e w =>
    rw [hresult] at hmake
    rw [bind_error _ (onWorld_error hresult)]
    exact hmake
  | ok outcome w =>
    rw [hresult] at hmake
    rw [bind_ok _ (onWorld_ok hresult), step_bind _ (Session.modify_eq _ (by exact hopen₁)),
      modify_bind]
    exact hmake.then_none (Flight.log_quiet .info _ rfl).consults

/-- Producing the component of a planned session asks the model at most once, and gives the code of
its answer. -/
theorem produce_consults (config : Config) (prompt : String) {phase : Status} {message : String}
    {f : Flight σ π} {plan : Plan} (hplan : f.session.plan = some plan)
    (hphase : f.session.status.canMoveTo phase = true) (hopen : phase.isTerminal = false)
    (hmessage : message ≠ "Repairing component") :
    ∃ calls, f.world.Consults calls (endState (produce config prompt phase message f)).world ∧
      Answered config prompt calls (generatedCode (produce config prompt phase message f)) := by
  have hcurrent : currentPlan f = .ok plan f := by simp [currentPlan, hplan]
  obtain ⟨f₁, hadvance, hyields₁, hcore₁⟩ :=
    advance_quiet phase message (.obj [("model", .str plan.modelId)]) hphase
      (repairNumber?_of_ne _ hmessage)
  have hstatus₁ : f₁.session.status = phase := congrArg Session.status hcore₁
  obtain ⟨calls, hgenerate, hanswered⟩ :=
    generate_consults config f₁.session.tenant plan prompt f₁.world
  rw [produce, bind_ok _ hcurrent, bind_ok _ hadvance, get_bind]
  cases hresult : generate config f₁.session.tenant plan prompt f₁.world with
  | error e w =>
    rw [hresult] at hgenerate hanswered
    rw [bind_error _ (onWorld_error hresult)]
    exact ⟨calls, hyields₁.consults.after_none hgenerate, hanswered⟩
  | ok generated w =>
    rw [hresult] at hgenerate hanswered
    have hopen₁ : f₁.session.status.isTerminal = false := by rw [hstatus₁, hopen]
    obtain ⟨f₂, haccept, hyields₂, -⟩ :=
      accept_spec generated (f := { f₁ with world := w }) hopen₁
    rw [bind_ok _ (onWorld_ok hresult), bind_ok _ haccept]
    exact ⟨calls, (hyields₁.consults.after_none hgenerate).then_none hyields₂.consults, hanswered⟩

end FlightWork

end ArtifactPipeline
