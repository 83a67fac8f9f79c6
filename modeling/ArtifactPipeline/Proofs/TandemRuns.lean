import ArtifactPipeline.Proofs.Abreast
import ArtifactPipeline.Proofs.Entries

/-!
# Runs in tandem

Two runs of one request whose worlds are in tandem go through the same rounds, to the same end. They
are the same but for what their leeway allows. What publishing does to two sessions that have passed
is not part of that: if the publishers come to alike results, completed sessions are alike as well.
-/

namespace ArtifactPipeline

open Json

variable {σ π : Type}

/-- Giving up is a rejection after the session was put before a human. -/
theorem FlightWork.giveUp_eq (verdict : Verdict) (f : Flight σ π) :
    giveUp verdict f = reject "Repair budget exhausted, escalated to human review" (.obj [
        ("attempts", .nat f.session.attempts),
        ("escalated", .bool (escalate f.session verdict f.world).1)])
      { f with world := (escalate f.session verdict f.world).2 } := rfl

/-- The flight after its component was handed to the publisher. -/
def Flight.offered [Publisher π] (code : String) (f : Flight σ π) : Flight σ π :=
  match f.world.publish f.session code with
  | (.ok name, world) => { f with world }.withSession { f.session with artifactId := some name }
  | (.error e, world) =>
    { f with world }.log .warn "Publishing failed" (.obj [("error", .str e.message)])

/-- Handing a component to the publisher changes nothing of the session but the name of its
artifact. -/
theorem Flight.offered_status [Publisher π] (code : String) (f : Flight σ π) :
    (f.offered code).session.status = f.session.status := by
  unfold offered
  split <;> rfl

/-- A session that has passed completes, whatever the publisher does. -/
theorem FlightWork.complete_eq [Publisher π] (code : String) {f : Flight σ π}
    (h : f.session.status = .validating) :
    complete code f = .ok () (((f.offered code).moved .completed "Component accepted" (.obj [
      ("artifact_id", .text? (f.offered code).session.artifactId)])).countPatterns true) := by
  have hedge : (f.offered code).session.status.canMoveTo .completed = true := by
    rw [Flight.offered_status, h]
    rfl
  rw [complete, modify_bind, get_bind]
  exact bind_ok _ (advance_eq _ _ _ hedge)

/-- Two sessions in flight were abreast when they had passed, and have completed since then. -/
def Flight.Completed [Publisher π] (k : Leeway) (R : World σ π → World σ π → Prop)
    (g₁ g₂ : Flight σ π) : Prop :=
  ∃ f₁ f₂ code, f₁.Abreast k R .validating f₂ ∧ FlightWork.complete code f₁ = .ok () g₁ ∧
    FlightWork.complete code f₂ = .ok () g₂

/-- Two sessions in flight have both completed, or they are still alike and have not completed. -/
def Flight.Landed [Publisher π] (k : Leeway) (R S : World σ π → World σ π → Prop)
    (f₁ f₂ : Flight σ π) : Prop :=
  f₁.Completed k R f₂ ∨ ∃ status, status ≠ .completed ∧ f₁.Abreast k S status f₂

/-- How two sessions stand after a round. -/
def RoundAbreast [Publisher π] (k : Leeway) (R S : World σ π → World σ π → Prop) :
    Round → Flight σ π → Flight σ π → Prop
  | .again => Flight.Abreast k R .reflexion
  | .finished => Flight.Landed k R S

namespace FlightWork

variable [ModelService σ] [Publisher π] {k : Leeway} {R S : World σ π → World σ π → Prop}
  {f₁ f₂ : Flight σ π} {status : Status}

/-- Rejecting two sessions abreast lands both. -/
theorem reject_agrees {E : Flight σ π → Flight σ π → Prop} (T : Tandem k R S)
    (h : f₁.Abreast k R status f₂) (hedge : status.canMoveTo .rejected = true) {message : String}
    {data₁ data₂ : Value} (hwords : k.Says message data₁ message data₂) :
    Agrees E (fun _ => Flight.Landed k R S) (reject message data₁ f₁)
      (reject message data₂ f₂) := by
  refine (enter_agrees T.working h hedge (by decide) hwords).bind fun _ g₁ g₂ hg => ?_
  have hclosed := hg.toAlike.withWorld (T.finish hg.world)
  exact .ok (Or.inr ⟨.rejected, by decide, hclosed.countPatterns T false, hg.status,
    hg.artifactId⟩)

/-- Whether a session could be put before a human shows in its log entry alone. -/
theorem giveUp_agrees {E : Flight σ π → Flight σ π → Prop} (T : Tandem k R S) (verdict : Verdict)
    (h : f₁.Abreast k R .validating f₂) :
    Agrees E (fun _ => Flight.Landed k R S) (giveUp verdict f₁) (giveUp verdict f₂) := by
  obtain ⟨hworld, hfiled⟩ := T.escalate h.session verdict h.world
  rw [giveUp_eq, giveUp_eq, h.session.attempts]
  exact reject_agrees T (h.withWorld hworld) rfl (.gaveUp _ hfiled)

/-- After the same outcome of a repair two sessions go on abreast, or both are rejected. -/
theorem followUp_agrees {E : Flight σ π → Flight σ π → Prop} (T : Tandem k R S) (code : String)
    (errors : List String) (attempt : Nat) (outcome : RepairOutcome)
    (h : f₁.Abreast k R .reflexion f₂) :
    Agrees E (RoundAbreast k R S) (followUp code errors attempt outcome f₁)
      (followUp code errors attempt outcome f₂) := by
  refine (change_agrees h rfl fun _ _ _ _ _ => rfl).bind fun _ g₁ g₂ hg => ?_
  cases outcome.success with
  | true =>
    rw [if_pos rfl, modify_bind, modify_bind, hg.previous]
    have hkept : Flight.Abreast k R .reflexion
        { g₁ with run := { g₁.run with previous := g₁.run.previous ++ [⟨code, errors⟩] } }
        { g₂ with run := { g₂.run with previous := g₁.run.previous ++ [⟨code, errors⟩] } } :=
      ⟨⟨hg.session, rfl, hg.history, hg.world⟩, hg.status, hg.artifactId⟩
    refine (change_agrees hkept rfl fun _ _ _ _ _ => rfl).bind fun _ g₁ g₂ hg => ?_
    refine (log_agrees T.working hg .info (.same _ (.inr (by decide)))).bind fun _ g₁ g₂ hg => ?_
    exact .ok hg
  | false =>
    rw [if_neg (by decide)]
    exact (reject_agrees T hg rfl (.same _ (.inr (by decide)))).bind fun _ _ _ hg => .ok hg

/-- Repairs of two sessions abreast have the same outcome. -/
theorem repair_agrees {E : Flight σ π → Flight σ π → Prop} (T : Tandem k R S) (config : Config)
    (code : String) (errors : List String) (h : f₁.Abreast k R .validating f₂) :
    Agrees E (RoundAbreast k R S) (repair config code errors f₁)
      (repair config code errors f₂) := by
  rw [repair_eq, get_bind, get_bind, h.session.attempts, h.session.maxAttempts]
  have hedge : Status.validating.canMoveTo .reflexion = true := rfl
  refine (enter_agrees T.working h hedge (by decide) (.same _ (.inr (by decide)))).bind
    fun _ g₁ g₂ hg => ?_
  rw [get_bind, get_bind, hg.previous]
  obtain ⟨outcome, attempts, w₁, w₂, h₁, h₂, hw⟩ := T.attemptRepair config
    ⟨code, errors, f₁.session.attempts + 1, f₁.session.maxAttempts, g₁.run.previous⟩ hg.session
    hg.world
  rw [modifyGet_bind outcome _ _ (by rw [h₁]), modifyGet_bind outcome _ _ (by rw [h₂])]
  have hdiscreet : Session.Discreet ({ · with attempts }) := fun _ _ _ _ _ => rfl
  exact followUp_agrees T code errors _ outcome ((hg.withWorld hw).change hdiscreet)

/-- After the same verdict two sessions go on abreast, or both land. -/
theorem conclude_agrees {E : Flight σ π → Flight σ π → Prop} (T : Tandem k R S) (config : Config)
    (code : String) (verdict : Verdict) (h : f₁.Abreast k R .validating f₂) :
    Agrees E (RoundAbreast k R S) (conclude config code verdict f₁)
      (conclude config code verdict f₂) := by
  refine (change_agrees h rfl fun _ _ _ _ _ => rfl).bind fun _ g₁ g₂ hg => ?_
  cases verdict.isValid with
  | true =>
    rw [if_pos rfl]
    refine (log_agrees T.working hg .info (.same _ (.inr (by decide)))).bind fun _ g₁ g₂ hg => ?_
    have hcomplete₁ := complete_eq code hg.status
    have hcomplete₂ := complete_eq code hg.status_right
    rw [bind_ok _ hcomplete₁, bind_ok _ hcomplete₂]
    exact .ok (Or.inl ⟨g₁, g₂, code, hg, hcomplete₁, hcomplete₂⟩)
  | false =>
    rw [if_neg (by decide)]
    refine (log_agrees T.working hg .warn (.same _ (.inr (by decide)))).bind fun _ g₁ g₂ hg => ?_
    rw [get_bind, get_bind, hg.session.attempts, hg.session.maxAttempts]
    split
    · exact (giveUp_agrees T verdict hg).bind fun _ _ _ hg => .ok hg
    · exact repair_agrees T config code _ hg

/-- A round of validation of two sessions abreast ends for both in the same way. -/
theorem round_agrees (T : Tandem k R S) (config : Config)
    (h : f₁.Abreast k R status f₂) (hedge : status.canMoveTo .validating = true) :
    Agrees (Flight.Stalled k R) (RoundAbreast k R S) (round config f₁) (round config f₂) := by
  rw [round_eq, get_bind, get_bind, h.session.attempts]
  refine (enter_agrees T.working h hedge (by decide) (.same _ (.inr (by decide)))).bind
    fun _ g₁ g₂ hg => ?_
  have hcode : g₂.code = g₁.code := by rw [Flight.code, hg.session.code, Flight.code]
  rw [get_bind, get_bind, hcode, hg.session.tenant]
  have hvalidate := T.validate_agrees g₁.code g₁.session.tenant
    (fun hexact => (hg.session.exact hexact).1) hg.world
  refine (onWorld_agrees hg rfl hvalidate).bind fun verdict g₁' g₂' hg => ?_
  exact conclude_agrees T config g₁.code verdict hg

/-- Any number of rounds brings two sessions abreast to the same end. -/
theorem settle_agrees (T : Tandem k R S) (config : Config)
    (rounds : Nat) (h : f₁.Abreast k R status f₂) (hedge : status.canMoveTo .validating = true) :
    Agrees (Flight.Stalled k R) (fun _ => Flight.Landed k R S) (settle config rounds f₁)
      (settle config rounds f₂) := by
  -- A round leaves the sessions abreast or has ended both, so the rounds are run off together.
  induction rounds generalizing f₁ f₂ status with
  | zero =>
    have hopen : status ≠ .completed := by rintro rfl; cases hedge
    exact .ok (Or.inr ⟨status, hopen, h.withWorld (T.finish h.world)⟩)
  | succ rounds ih =>
    refine (round_agrees T config h hedge).bind fun next g₁ g₂ hg => ?_
    cases next with
    | finished => exact .ok hg
    | again => exact ih hg rfl

/-- From their beginning on, two sessions abreast come to the same end, each in its own way of
working. -/
theorem driveAs_agrees (T : Tandem k R S) (config : Config)
    (request : ComponentRequest) (h : f₁.Abreast k R .pending f₂) :
    Agrees (Flight.Stalled k R) (fun _ => Flight.Landed k R S) (driveAs k.left config request f₁)
      (driveAs k.right config request f₂) := by
  refine (plan_agrees T config h).bind fun _ g₁ g₂ ⟨hg, plan, hplan⟩ => ?_
  refine (produce_agrees T config request.prompt hg hplan).bind fun generated g₁ g₂ hg => ?_
  rw [get_bind, get_bind, hg.session.attempts, hg.session.maxAttempts]
  exact settle_agrees T config _ hg k.left.phase_canMoveTo

end FlightWork

/-- Two runs of one request in worlds in tandem end alike, up to what publishing does to them. -/
theorem Tandem.runs [ModelService σ] [Publisher π] {k : Leeway}
    {R S : World σ π → World σ π → Prop} (T : Tandem k R S) (config : Config)
    (request : ComponentRequest) {w₁ w₂ : World σ π} (h : R w₁ w₂) :
    ∃ f₁ f₂, FlightWork.runAs k.left config request (Flight.start config request w₁) = .ok () f₁ ∧
      FlightWork.runAs k.right config request (Flight.start config request w₂) = .ok () f₂ ∧
      f₁.Landed k R S f₂ := by
  have hdrive := FlightWork.driveAs_agrees T config request
    (Flight.start_abreast T config request h)
  unfold FlightWork.runAs FlightWork.orFail
  generalize FlightWork.driveAs k.left config request (Flight.start config request w₁) = result₁
    at hdrive ⊢
  generalize FlightWork.driveAs k.right config request (Flight.start config request w₂) = result₂
    at hdrive ⊢
  cases hdrive with
  | @ok _ f₁ f₂ hlanded => exact ⟨f₁, f₂, rfl, rfl, hlanded⟩
  | @error e f₁ f₂ hstalled =>
    have hfail := FlightWork.fail_agrees (E := fun _ _ => False) T.working e hstalled
    dsimp only
    generalize FlightWork.fail e f₁ = result₁ at hfail ⊢
    generalize FlightWork.fail e f₂ = result₂ at hfail ⊢
    cases hfail with
    | @ok _ g₁ g₂ hg =>
      exact ⟨g₁, g₂, rfl, rfl, Or.inr ⟨.failed, by decide, hg.withWorld (T.finish hg.world)⟩⟩
    | error himpossible => exact himpossible.elim

/-- Publishers come to alike results for alike sessions that have passed, and lead from worlds
related by `R` to worlds related by `Q`. -/
def PublishesAlike [Publisher π] (k : Leeway) (R Q : World σ π → World σ π → Prop) : Prop :=
  ∀ (s₁ s₂ : Session) (w₁ w₂ : World σ π) (code : String), s₁.Alike k s₂ →
    s₁.status = .validating → s₁.artifactId = none → R w₁ w₂ →
    PublishedAlike (w₁.publish s₁ code).1 (w₂.publish s₂ code).1 ∧
    (k.exact → (w₂.publish s₂ code).1 = (w₁.publish s₁ code).1) ∧
    Q (w₁.publish s₁ code).2 (w₂.publish s₂ code).2

/-- Publishers that come to alike results keep two sessions alike. -/
theorem Flight.Abreast.offered [Publisher π] {k : Leeway} {R Q : World σ π → World σ π → Prop}
    {f₁ f₂ : Flight σ π} (h : f₁.Abreast k R .validating f₂) (P : Pace k Q)
    (hpublishes : PublishesAlike k R Q) (code : String) :
    (f₁.offered code).Alike k Q (f₂.offered code) := by
  obtain ⟨halike, hexact, hworld⟩ :=
    hpublishes _ _ _ _ code h.session h.status h.artifactId h.world
  unfold Flight.offered
  generalize f₁.world.publish f₁.session code = p₁ at halike hexact hworld ⊢
  generalize f₂.world.publish f₂.session code = p₂ at halike hexact hworld ⊢
  obtain ⟨result₁, w₁⟩ := p₁
  obtain ⟨result₂, w₂⟩ := p₂
  cases result₁ with
  | ok name₁ =>
    cases result₂ with
    | ok name₂ =>
      have hsession : Session.Alike k { f₁.session with artifactId := some name₁ }
          { f₂.session with artifactId := some name₂ } :=
        ⟨congrArg (fun s : Session => { s with artifactId := some name₂ }) h.session.same, rfl,
          fun he => ⟨(h.session.exact he).1, congrArg Except.toOption (hexact he),
            (h.session.exact he).2.2⟩⟩
      exact (h.toAlike.withWorld hworld).withSession hsession
    | error e₂ => cases halike
  | error e₁ =>
    cases result₂ with
    | ok name₂ => cases halike
    | error e₂ =>
      cases halike
      exact (h.toAlike.withWorld hworld).log P .warn (.same _ (.inr (by decide)))

/-- Two publishers that come to alike results keep sessions in flight alike to their end. The
relation `Q` holds from the publication on until the sessions have ended. -/
theorem Flight.Completed.alike [ModelService σ] [Publisher π] {k : Leeway}
    {R Q S : World σ π → World σ π → Prop} {g₁ g₂ : Flight σ π} (h : g₁.Completed k R g₂)
    (T : Tandem k R S) (P : Pace k Q) (hfinish : ∀ {w₁ w₂ : World σ π}, Q w₁ w₂ → S w₁ w₂)
    (hpublishes : PublishesAlike k R Q) : g₁.Alike k S g₂ := by
  obtain ⟨f₁, f₂, code, h, hcomplete₁, hcomplete₂⟩ := h
  rw [FlightWork.complete_eq code h.status] at hcomplete₁
  rw [FlightWork.complete_eq code h.status_right] at hcomplete₂
  cases hcomplete₁
  cases hcomplete₂
  have hoffered := h.offered P hpublishes code
  have hmoved := hoffered.moved P .completed (.accepted hoffered.session.artifact
    fun hexact => (hoffered.session.exact hexact).2.1)
  rw [k.status_eq (by decide)] at hmoved
  exact (hmoved.withWorld (hfinish hmoved.world)).countPatterns T true

/-- Two runs whose publishers come to alike results end alike. -/
theorem Flight.Landed.alike [ModelService σ] [Publisher π] {k : Leeway}
    {R Q S : World σ π → World σ π → Prop} {f₁ f₂ : Flight σ π} (h : f₁.Landed k R S f₂)
    (T : Tandem k R S) (P : Pace k Q) (hfinish : ∀ {w₁ w₂ : World σ π}, Q w₁ w₂ → S w₁ w₂)
    (hpublishes : PublishesAlike k R Q) : f₁.Alike k S f₂ := by
  rcases h with hcompleted | ⟨status, -, habreast⟩
  · exact hcompleted.alike T P hfinish hpublishes
  · exact habreast.toAlike

end ArtifactPipeline
