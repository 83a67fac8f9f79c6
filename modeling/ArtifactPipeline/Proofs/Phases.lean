import ArtifactPipeline.Proofs.WorkEnds
import ArtifactPipeline.Run.Phase

/-!
# How the phases of a session end

Each phase of a session is described once: by the ways in which it can end, by what its effects
amount to in each of them, and by the session after it, its bookkeeping aside. Nothing after this
module looks into a phase again.
-/

namespace ArtifactPipeline

open Json

variable {σ π : Type}

/-- The record describes a session with a verdict. -/
def ReviewRecord.Describes (record : ReviewRecord) (s : Session) (verdict : Verdict) : Prop :=
  record.session = s.id ∧ record.tenant = s.tenant ∧ record.attempts = s.attempts ∧
    record.code = s.code ∧ record.reason = Text.join ", " verdict.failed

namespace FlightWork

/-- How planning ends. -/
inductive PlanEnds (f : Flight σ π) : EStateM.Result Failure (Flight σ π) Unit → Prop
  | planned {f' : Flight σ π} {t : Tally} (plan : Plan) :
    f.Yields t f' → t.Opening 1 →
    f'.session.core = { f.session.core with status := .planning, plan := some plan } →
    PlanEnds f (.ok () f')
  | failed {e : Failure} {f' : Flight σ π} {t : Tally} {kind : GateKind} :
    f.Yields (t ++ { gates := [⟨kind, some e⟩] }) f' → t.Opening 1 →
    f'.session.core = { f.session.core with status := .planning } →
    PlanEnds f (.error e f')

/-- Planning ends with a plan, or breaks off where the model or the patterns fail. -/
theorem plan_ends [ModelService σ] (config : Config) {f : Flight σ π}
    (hstatus : f.session.status = .pending) : PlanEnds f (plan config f) := by
  unfold plan
  obtain ⟨f₁, hadvance, hyields₁, hcore₁⟩ :=
    advance_quiet (f := f) .planning "Classifying request" .null (by rw [hstatus]; rfl) rfl
  rw [bind_ok _ hadvance, get_bind]
  have hmake := makePlan_ends config f₁.session.prompt f₁.session.mood f₁.world
  cases hresult : makePlan config f₁.session.prompt f₁.session.mood f₁.world with
  | error e w =>
    rw [hresult] at hmake
    rw [bind_error _ (onWorld_error hresult)]
    cases hmake with
    | failed kind hyields hopening =>
      exact .failed (hyields₁.quietly (.ofWorld hyields)) hopening hcore₁
  | ok outcome w =>
    rw [hresult] at hmake
    rw [bind_ok _ (onWorld_ok hresult)]
    cases hmake with
    | done hyields hopening =>
      have hstatus₁ : f₁.session.status = .planning := congrArg Session.status hcore₁
      have hopen₁ : f₁.session.status.isTerminal = false := by rw [hstatus₁]; rfl
      rw [step_bind _ (Session.modify_eq _ (by exact hopen₁)), modify_bind]
      refine .planned outcome.plan ?_ hopening ?_
      · refine .then_quietly ?_ (Flight.withSession_yields _ rfl)
        refine .then_quietly ?_ (Flight.log_quiet _ _ rfl)
        refine .then_quietly ?_ (Flight.withSession_yields _ rfl)
        exact hyields₁.quietly (.ofWorld hyields)
      · exact congrArg (fun s : Session => { s with plan := some outcome.plan }) hcore₁

/-- Taking over a generated component always succeeds while the session has not ended. -/
theorem accept_spec (generated : Generated) {f : Flight σ π}
    (hopen : f.session.status.isTerminal = false) :
    ∃ f', accept generated f = .ok () f' ∧ f.Yields {} f' ∧
      f'.session.core = { f.session.core with code := some generated.code } := by
  rw [accept, step_bind _ (Session.modify_eq _ hopen),
    step_bind _ (Session.modify_eq _ (by exact hopen))]
  refine ⟨_, rfl, ?_, rfl⟩
  refine .then_quietly ?_ (Flight.log_quiet _ _ rfl)
  refine .then_quietly ?_ (Flight.withSession_yields _ rfl)
  exact Flight.withSession_yields _ rfl

/-- How generating a component in some phase ends. -/
inductive ProduceEnds (phase : Status) (f : Flight σ π) :
    EStateM.Result Failure (Flight σ π) Generated → Prop
  | produced {f' : Flight σ π} {t : Tally} (generated : Generated) :
    f.Yields t f' → t.Opening 1 →
    f'.session.core = { f.session.core with status := phase, code := some generated.code } →
    ProduceEnds phase f (.ok generated f')
  | failed {e : Failure} {f' : Flight σ π} {t : Tally} {kind : GateKind} :
    f.Yields (t ++ { gates := [⟨kind, some e⟩] }) f' → t.Opening 1 →
    f'.session.core = { f.session.core with status := phase } →
    ProduceEnds phase f (.error e f')

/-- A generation ends with code, or breaks off where the model or the allowed packages fail. -/
theorem produce_ends [ModelService σ] (config : Config) (prompt : String) {phase : Status}
    {message : String} {f : Flight σ π} {plan : Plan} (hplan : f.session.plan = some plan)
    (hphase : f.session.status.canMoveTo phase = true) (hopen : phase.isTerminal = false)
    (hmessage : message ≠ "Repairing component") :
    ProduceEnds phase f (produce config prompt phase message f) := by
  unfold produce
  have hcurrent : currentPlan f = .ok plan f := by simp [currentPlan, hplan]
  obtain ⟨f₁, hadvance, hyields₁, hcore₁⟩ :=
    advance_quiet phase message (.obj [("model", .str plan.modelId)]) hphase
      (repairNumber?_of_ne _ hmessage)
  rw [bind_ok _ hcurrent, bind_ok _ hadvance, get_bind]
  have hgenerate := generate_ends config f₁.session.tenant plan prompt f₁.world
  cases hresult : generate config f₁.session.tenant plan prompt f₁.world with
  | error e w =>
    rw [hresult] at hgenerate
    rw [bind_error _ (onWorld_error hresult)]
    cases hgenerate with
    | failed kind hyields hopening =>
      exact .failed (hyields₁.quietly (.ofWorld hyields)) hopening hcore₁
  | ok generated w =>
    rw [hresult] at hgenerate
    rw [bind_ok _ (onWorld_ok hresult)]
    cases hgenerate with
    | done hyields hopening =>
      have hstatus₁ : f₁.session.status = phase := congrArg Session.status hcore₁
      have hopen₁ : f₁.session.status.isTerminal = false := by rwa [hstatus₁]
      obtain ⟨f₂, haccept, hyields₂, hcore₂⟩ :=
        accept_spec generated (f := { f₁ with world := w }) hopen₁
      rw [bind_ok _ haccept]
      refine .produced generated ?_ hopening ?_
      · exact (hyields₁.quietly (.ofWorld hyields)).then_quietly hyields₂
      · exact hcore₂.trans
          (congrArg (fun s : Session => { s with code := some generated.code }) hcore₁)

/-- Ending a session as failed always succeeds while it has not ended. -/
theorem fail_spec {f : Flight σ π} (failure : Failure)
    (hopen : f.session.status.isTerminal = false) :
    ∃ f', fail failure f = .ok () f' ∧ f.Yields {} f' ∧
      f'.session.core = { f.session.core with
        status := .failed, error := some failure.message } := by
  have hmessage : "Failed during " ++ f.session.status.label ≠ "Repairing component" := by
    cases f.session.status <;> decide
  refine ⟨_, fail_eq failure hopen, ?_, rfl⟩
  refine .then_quietly ?_ (Flight.persist_yields _)
  refine .then_quietly ?_ (Flight.log_quiet _ _ (repairNumber?_of_ne _ hmessage))
  exact f.timed_yields.quietly (Flight.withSession_yields _ rfl)

/-- Completing a validated session always succeeds; its code is handed to the publisher once. -/
theorem complete_spec [Publisher π] (code : String) {f : Flight σ π}
    (hstatus : f.session.status = .validating) :
    ∃ f', complete code f = .ok () f' ∧ f.Yields { published := [code] } f' ∧
      f'.session.core = { f.session.core with
        status := .completed, artifactId := f'.session.artifactId } := by
  -- Whether the publisher succeeded matters to the name of the artifact alone.
  have hrest (f₁ : Flight σ π) (hyields₁ : f.Yields { published := [code] } f₁)
      (hcore₁ : f₁.session.core = { f.session.core with artifactId := f₁.session.artifactId }) :
      ∃ f', (do
          advance .completed "Component accepted"
            (.obj [("artifact_id", .text? f₁.session.artifactId)])
          modify (Flight.countPatterns true) : FlightWork σ π Unit) f₁ = .ok () f' ∧
        f.Yields { published := [code] } f' ∧
        f'.session.core = { f.session.core with
          status := .completed, artifactId := f'.session.artifactId } := by
    have hstatus₁ : f₁.session.status = .validating :=
      (congrArg Session.status hcore₁).trans hstatus
    obtain ⟨f₂, hadvance, hyields₂, hcore₂⟩ := advance_quiet (f := f₁) .completed
      "Component accepted" (.obj [("artifact_id", .text? f₁.session.artifactId)])
      (by rw [hstatus₁]; rfl) rfl
    rw [bind_ok _ hadvance]
    refine ⟨_, rfl, ?_, ?_⟩
    · exact (hyields₁.then_quietly hyields₂).then_quietly (Flight.countPatterns_yields _ _)
    · have hartifact : f₂.session.artifactId = f₁.session.artifactId :=
        (congrArg Session.artifactId hcore₂ :)
      rw [Flight.countPatterns_session, hcore₂, hcore₁, hartifact]
  have hpublish := f.world.publish_moves f.session code
  rw [complete, modify_bind, get_bind]
  rcases hresult : f.world.publish f.session code with ⟨e | name, w⟩
  · rw [hresult] at hpublish
    exact hrest _ (.then_quietly (.ofWorld (hpublish.yields rfl)) (Flight.log_quiet _ _ rfl)) rfl
  · rw [hresult] at hpublish
    exact hrest _ (.then_quietly (.ofWorld (hpublish.yields rfl))
      (Flight.withSession_yields _ rfl)) rfl

/-- Ending a session as rejected succeeds after a validation or a repair. -/
theorem reject_spec (message : String) (data : Value) {f : Flight σ π}
    (hedge : f.session.status.canMoveTo .rejected = true)
    (hmessage : message ≠ "Repairing component") :
    ∃ f', reject message data f = .ok () f' ∧ f.Yields {} f' ∧
      f'.session.core = { f.session.core with status := .rejected } := by
  obtain ⟨f₁, hadvance, hyields₁, hcore₁⟩ :=
    advance_quiet .rejected message data hedge (repairNumber?_of_ne _ hmessage)
  rw [reject, bind_ok _ hadvance]
  exact ⟨_, rfl, hyields₁.then_quietly (Flight.countPatterns_yields _ _), hcore₁⟩

/-- Giving up after a validation always succeeds; one record is put before a human. -/
theorem giveUp_spec (verdict : Verdict) {f : Flight σ π}
    (hstatus : f.session.status = .validating) :
    ∃ f' record, giveUp verdict f = .ok () f' ∧ f.Yields { reviews := [record] } f' ∧
      record.Describes f'.session verdict ∧
      f'.session.core = { f.session.core with status := .rejected } := by
  let timed : World σ π := f.world.now.2
  let record : ReviewRecord := {
    session := f.session.id
    tenant := f.session.tenant
    reason := Text.join ", " verdict.failed
    attempts := f.session.attempts
    code := f.session.code
    time := f.world.now.1 }
  obtain ⟨failure, -, hmoves⟩ := timed.write_moves (.createReview record) rfl
  let filed : Flight σ π := { f with world := (timed.write (.createReview record)).2 }
  have hfiled : f.Yields { reviews := [record] } filed :=
    .ofWorld ((f.world.now_moves.trans hmoves).yields rfl)
  obtain ⟨f₁, hreject, hyields₁, hcore₁⟩ := reject_spec (f := filed)
    "Repair budget exhausted, escalated to human review"
    (.obj [("attempts", .nat f.session.attempts),
      ("escalated", .bool (timed.write (.createReview record)).1)])
    (by rw [show filed.session.status = .validating from hstatus]; rfl) (by decide)
  have hrecord : record.Describes f₁.session verdict :=
    ⟨(congrArg Session.id hcore₁ :).symm, (congrArg Session.tenant hcore₁ :).symm,
      (congrArg Session.attempts hcore₁ :).symm, (congrArg Session.code hcore₁ :).symm, rfl⟩
  refine ⟨f₁, record, ?_, hfiled.then_quietly hyields₁, hrecord, hcore₁⟩
  rw [giveUp, get_bind]
  exact hreject

end FlightWork

end ArtifactPipeline
