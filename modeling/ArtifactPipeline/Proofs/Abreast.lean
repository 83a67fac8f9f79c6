import ArtifactPipeline.Proofs.Rounds
import ArtifactPipeline.Proofs.Tandem

/-!
# Sessions abreast

Two sessions in flight are abreast if they are alike, and so are their logs, their worlds are
related, and neither is published yet. Moves, changes and log entries keep them abreast, and so does
every phase before the end of a session.
-/

namespace ArtifactPipeline

open Json

variable {σ π α : Type}

/-- Two sessions in flight are alike, and their worlds are related. -/
structure Flight.Alike (k : Leeway) (R : World σ π → World σ π → Prop) (f₁ f₂ : Flight σ π) :
    Prop where
  session : f₁.session.Alike k f₂.session
  previous : f₂.run.previous = f₁.run.previous
  history : List.Forall₂ (LogEntry.Alike k) f₁.run.history f₂.run.history
  world : R f₁.world f₂.world

/-- Two alike sessions in flight that are not published yet, the first of which has some status. -/
structure Flight.Abreast (k : Leeway) (R : World σ π → World σ π → Prop) (status : Status)
    (f₁ f₂ : Flight σ π) : Prop extends Flight.Alike k R f₁ f₂ where
  status : f₁.session.status = status
  artifactId : f₁.session.artifactId = none

/-- Two sessions in flight that have not ended, at the same place. -/
def Flight.Stalled (k : Leeway) (R : World σ π → World σ π → Prop) (f₁ f₂ : Flight σ π) : Prop :=
  ∃ status : Status, status.isTerminal = false ∧ f₁.Abreast k R status f₂

namespace Flight

variable {k : Leeway} {R S : World σ π → World σ π → Prop} {f₁ f₂ : Flight σ π}

/-- Alike sessions may go on in other worlds that are related. -/
theorem Alike.withWorld {w₁ w₂ : World σ π} (h : f₁.Alike k R f₂) (hw : S w₁ w₂) :
    Flight.Alike k S { f₁ with world := w₁ } { f₂ with world := w₂ } :=
  ⟨h.session, h.previous, h.history, hw⟩

/-- Sessions that are alike may take the place of alike ones. -/
theorem Alike.withSession {s₁ s₂ : Session} (h : f₁.Alike k R f₂) (hs : s₁.Alike k s₂) :
    (f₁.withSession s₁).Alike k R (f₂.withSession s₂) :=
  ⟨hs, h.previous, h.history, h.world⟩

/-- Sessions stay alike when the clock is read for both. -/
theorem Alike.timed (P : Pace k R) (h : f₁.Alike k R f₂) : f₁.timed.Alike k R f₂.timed :=
  h.withWorld (P.now h.world)

/-- Two sessions that say the same stay alike. -/
theorem Alike.log (P : Pace k R) (h : f₁.Alike k R f₂) (level : LogLevel)
    {message₁ message₂ : String} {data₁ data₂ : Value}
    (hwords : k.Says message₁ data₁ message₂ data₂) :
    (f₁.log level message₁ data₁).Alike k R (f₂.log level message₂ data₂) := by
  let entry (f : Flight σ π) (message : String) (data : Value) : LogEntry :=
    { session := f.session.id, phase := f.session.status, level, message, data
      time := f.world.now.1 }
  have hentry : (entry f₁ message₁ data₁).Alike k (entry f₂ message₂ data₂) :=
    ⟨h.session.status, rfl, hwords, fun hexact =>
      ⟨(h.session.exact hexact).1, P.moment h.world hexact⟩⟩
  exact ⟨h.session, h.previous, List.rel_append h.history (.cons hentry .nil),
    P.log hentry (P.now h.world)⟩

/-- Sessions stay alike when both are stored, whether the stores take them or not. -/
theorem Alike.persist (P : Pace k R) (h : f₁.Alike k R f₂) : f₁.persist.Alike k R f₂.persist :=
  h.withWorld (P.update h.session h.world)

/-- Two sessions that move to the same phase stay alike. -/
theorem Alike.moved (P : Pace k R) (h : f₁.Alike k R f₂) (next : Status)
    {message₁ message₂ : String} {data₁ data₂ : Value}
    (hwords : k.Says message₁ data₁ message₂ data₂) :
    (f₁.moved next message₁ data₁).Alike k R (f₂.moved (k.status next) message₂ data₂) := by
  have hentered := h.session.enter next (P.moment h.world)
  exact (((h.timed P).withSession hentered).log P .info hwords).persist P

/-- Two sessions that fail in the same phase stay alike. -/
theorem Alike.failed (P : Pace k R) (h : f₁.Alike k R f₂) (failure : Failure) :
    (f₁.failed failure).Alike k R (f₂.failed failure) := by
  have hfailed : k.status .failed = .failed := k.status_eq (by decide)
  have hentered := h.session.enter .failed (P.moment h.world)
  rw [hfailed] at hentered
  have hdiscreet : Session.Discreet ({ · with error := some failure.message }) :=
    fun _ _ _ _ _ => rfl
  have hended := hentered.discreet hdiscreet
  have hwords := Leeway.Says.brokeDown (k := k) f₁.session.status (.str failure.message)
  rw [← h.session.status] at hwords
  exact (((h.timed P).withSession hended).log P .error hwords).persist P

/-- Counting the uses of patterns keeps two sessions alike. -/
theorem Alike.countPatterns [ModelService σ] (T : Tandem k R S) (h : f₁.Alike k S f₂)
    (success : Bool) : (f₁.countPatterns success).Alike k S (f₂.countPatterns success) := by
  have hcount (references : List PatternReference) {w₁ w₂ : World σ π} (hw : S w₁ w₂) :
      S (references.foldl
          (fun w reference => (w.write (.recordPatternUsage reference.id success)).2) w₁)
        (references.foldl
          (fun w reference => (w.write (.recordPatternUsage reference.id success)).2) w₂) := by
    induction references generalizing w₁ w₂ with
    | nil => exact hw
    | cons reference references ih => exact ih (T.count reference.id success hw)
  unfold Flight.countPatterns
  rw [h.session.plan]
  exact h.withWorld (hcount _ h.world)

variable {status : Status}

/-- Sessions abreast may go on in other worlds that are related. -/
theorem Abreast.withWorld {w₁ w₂ : World σ π} (h : f₁.Abreast k R status f₂) (hw : S w₁ w₂) :
    Flight.Abreast k S status { f₁ with world := w₁ } { f₂ with world := w₂ } :=
  ⟨h.toAlike.withWorld hw, h.status, h.artifactId⟩

/-- Sessions abreast stay so under a discreet change of both. -/
theorem Abreast.change {change : Session → Session} (h : f₁.Abreast k R status f₂)
    (hchange : Session.Discreet change) :
    (f₁.withSession (change f₁.session)).Abreast k R status
      (f₂.withSession (change f₂.session)) :=
  ⟨h.toAlike.withSession (h.session.discreet hchange), (hchange.status _).trans h.status,
    (hchange.artifactId _).trans h.artifactId⟩

/-- Sessions abreast stay so when both say something that is alike. -/
theorem Abreast.log (P : Pace k R) (h : f₁.Abreast k R status f₂) (level : LogLevel)
    {message₁ message₂ : String} {data₁ data₂ : Value}
    (hwords : k.Says message₁ data₁ message₂ data₂) :
    (f₁.log level message₁ data₁).Abreast k R status (f₂.log level message₂ data₂) :=
  ⟨h.toAlike.log P level hwords, h.status, h.artifactId⟩

/-- Validation is the same status in both ways of working. -/
theorem Abreast.status_right (h : f₁.Abreast k R .validating f₂) :
    f₂.session.status = .validating := by
  rw [h.session.status, h.status]
  exact k.status_eq (by decide)

/-- Neither of two sessions abreast has been published. -/
theorem Abreast.artifactId_right (h : f₁.Abreast k R status f₂) :
    f₂.session.artifactId = none := by
  have hartifact := h.session.artifact
  rw [h.artifactId] at hartifact
  exact Option.not_isSome_iff_eq_none.mp (by rw [hartifact]; decide)

/-- Sessions abreast that have not ended may break off together. -/
theorem Abreast.stalled (h : f₁.Abreast k R status f₂) (hopen : status.isTerminal = false) :
    f₁.Stalled k R f₂ := ⟨status, hopen, h⟩

end Flight

namespace FlightWork

variable {k : Leeway} {R S : World σ π → World σ π → Prop} {f₁ f₂ : Flight σ π} {status : Status}

/-- Work on the two worlds that agrees keeps sessions abreast. -/
theorem onWorld_agrees {work₁ work₂ : Work σ π α} (h : f₁.Abreast k R status f₂)
    (hopen : status.isTerminal = false)
    (hwork : Agrees R (fun _ => R) (work₁ f₁.world) (work₂ f₂.world)) :
    Agrees (Flight.Stalled k R) (fun _ => Flight.Abreast k R status) (onWorld work₁ f₁)
      (onWorld work₂ f₂) := by
  unfold onWorld
  generalize work₁ f₁.world = result₁ at hwork ⊢
  generalize work₂ f₂.world = result₂ at hwork ⊢
  cases hwork with
  | ok hw => exact .ok (h.withWorld hw)
  | error hw => exact .error ((h.withWorld hw).stalled hopen)

/-- Changes that look at nothing in which alike sessions may differ keep them abreast. -/
theorem change_agrees {E : Flight σ π → Flight σ π → Prop} {change : Session → Session}
    (h : f₁.Abreast k R status f₂) (hopen : status.isTerminal = false)
    (hchange : Session.Discreet change) :
    Agrees E (fun _ => Flight.Abreast k R status) (step (·.modify change) f₁)
      (step (·.modify change) f₂) := by
  have hopen₁ : f₁.session.status.isTerminal = false := by rw [h.status, hopen]
  have hopen₂ : f₂.session.status.isTerminal = false := by
    rw [h.session.status, Leeway.isTerminal_status, hopen₁]
  simp only [step, Session.modify_eq change hopen₁, Session.modify_eq change hopen₂]
  exact .ok (h.change hchange)

/-- Saying something that is alike in both logs keeps two runs abreast. -/
theorem log_agrees {E : Flight σ π → Flight σ π → Prop} (P : Pace k R)
    (h : f₁.Abreast k R status f₂) (level : LogLevel) {message₁ message₂ : String}
    {data₁ data₂ : Value} (hwords : k.Says message₁ data₁ message₂ data₂) :
    Agrees E (fun _ => Flight.Abreast k R status)
      ((modify (Flight.log level message₁ data₁) : FlightWork σ π PUnit) f₁)
      ((modify (Flight.log level message₂ data₂) : FlightWork σ π PUnit) f₂) :=
  .ok (h.log P level hwords)

/-- Moves along an edge of the state machine keep sessions abreast. -/
theorem advance_agrees {E : Flight σ π → Flight σ π → Prop} (P : Pace k R)
    (h : f₁.Abreast k R status f₂) {next : Status} (hedge : status.canMoveTo next = true)
    {message₁ message₂ : String} {data₁ data₂ : Value}
    (hwords : k.Says message₁ data₁ message₂ data₂) :
    Agrees E (fun _ => Flight.Abreast k R next) (advance next message₁ data₁ f₁)
      (advance (k.status next) message₂ data₂ f₂) := by
  have hedge₁ : f₁.session.status.canMoveTo next = true := by rw [h.status, hedge]
  have hedge₂ : f₂.session.status.canMoveTo (k.status next) = true := by
    rw [h.session.status, Leeway.canMoveTo_status, hedge₁]
  rw [advance_eq _ _ _ hedge₁, advance_eq _ _ _ hedge₂]
  exact .ok ⟨h.toAlike.moved P next hwords, rfl, h.artifactId⟩

/-- Moves to a phase that has one name keep sessions abreast. -/
theorem enter_agrees {E : Flight σ π → Flight σ π → Prop} (P : Pace k R)
    (h : f₁.Abreast k R status f₂) {next : Status} (hedge : status.canMoveTo next = true)
    (hnext : next ≠ .generating ∧ next ≠ .streaming) {message₁ message₂ : String}
    {data₁ data₂ : Value} (hwords : k.Says message₁ data₁ message₂ data₂) :
    Agrees E (fun _ => Flight.Abreast k R next) (advance next message₁ data₁ f₁)
      (advance next message₂ data₂ f₂) := by
  have hadvance := advance_agrees (E := E) P h hedge hwords
  rwa [k.status_eq hnext] at hadvance

/-- Sessions that have not ended and fail have both failed. -/
theorem fail_agrees {E : Flight σ π → Flight σ π → Prop} (P : Pace k R) (failure : Failure)
    (h : f₁.Stalled k R f₂) :
    Agrees E (fun _ => Flight.Abreast k R .failed) (fail failure f₁) (fail failure f₂) := by
  obtain ⟨status, hopen, h⟩ := h
  have hopen₁ : f₁.session.status.isTerminal = false := by rw [h.status, hopen]
  have hopen₂ : f₂.session.status.isTerminal = false := by
    rw [h.session.status, Leeway.isTerminal_status, hopen₁]
  rw [fail_eq failure hopen₁, fail_eq failure hopen₂]
  exact .ok ⟨h.toAlike.failed P failure, rfl, h.artifactId⟩

end FlightWork

/-- Sessions of one request in related worlds start abreast. -/
theorem Flight.start_abreast [ModelService σ] {k : Leeway} {R S : World σ π → World σ π → Prop}
    (T : Tandem k R S) (config : Config) (request : ComponentRequest) {w₁ w₂ : World σ π}
    (h : R w₁ w₂) :
    (Flight.start config request w₁).Abreast k R .pending (Flight.start config request w₂) := by
  let opened (w : World σ π) : Session :=
    .new w.freshId.1 request config.pipeline.maxAttempts w.freshId.2.now.1
  have hopened : (opened w₁).Alike k (opened w₂) := by
    refine ⟨?_, rfl, fun hexact => ⟨T.name h hexact, rfl, ?_⟩⟩
    · have hpending : k.status .pending = .pending := k.status_eq (by decide)
      simp only [opened, Session.new, hpending]
    · exact congrArg (Timeline.mk · none none none none)
        (T.working.moment (T.freshId h) hexact)
  have hcreated := T.create hopened (T.working.now (T.freshId h))
  have hflight : Flight.Alike k R
      { run := { session := opened w₁ }
        world := (w₁.freshId.2.now.2.write (.createSession (opened w₁))).2 }
      { run := { session := opened w₂ }
        world := (w₂.freshId.2.now.2.write (.createSession (opened w₂))).2 } :=
    ⟨hopened, rfl, .nil, hcreated⟩
  exact ⟨hflight.log T.working .info (.same _ (.inr (by decide))), rfl, rfl⟩

namespace FlightWork

variable [ModelService σ] {k : Leeway} {R S : World σ π → World σ π → Prop} {f₁ f₂ : Flight σ π}

/-- Planning keeps sessions abreast, and both have a plan after it. -/
theorem plan_agrees (T : Tandem k R S) (config : Config) (h : f₁.Abreast k R .pending f₂) :
    Agrees (Flight.Stalled k R)
      (fun _ g₁ g₂ => g₁.Abreast k R .planning g₂ ∧ ∃ plan, g₁.session.plan = some plan)
      (plan config f₁) (plan config f₂) := by
  have hedge : Status.pending.canMoveTo .planning = true := rfl
  refine (enter_agrees T.working h hedge (by decide) (.same _ (.inr (by decide)))).bind
    fun _ g₁ g₂ hg => ?_
  rw [get_bind, get_bind, hg.session.prompt, hg.session.mood]
  have hmake := T.keeps_makePlan config g₁.session.prompt g₁.session.mood g₁.world g₂.world hg.world
  refine (onWorld_agrees hg rfl hmake).bind fun outcome g₁ g₂ hg => ?_
  refine (change_agrees hg rfl fun _ _ _ _ _ => rfl).bind fun _ g₁ g₂ hg => ?_
  refine (log_agrees T.working hg .info (.same _ (.inr (by decide)))).bind fun _ g₁ g₂ hg => ?_
  have hdiscreet : Session.Discreet ({ · with plan := some outcome.plan }) :=
    fun _ _ _ _ _ => rfl
  exact .ok ⟨hg.change hdiscreet, outcome.plan, rfl⟩

/-- Accepting the same code in both sessions keeps them abreast. -/
theorem accept_agrees {status : Status} {E : Flight σ π → Flight σ π → Prop} (T : Tandem k R S)
    (generated : Generated) (h : f₁.Abreast k R status f₂) (hopen : status.isTerminal = false) :
    Agrees E (fun _ => Flight.Abreast k R status) (accept generated f₁)
      (accept generated f₂) := by
  refine (change_agrees h hopen fun _ _ _ _ _ => rfl).bind fun _ g₁ g₂ hg => ?_
  refine (change_agrees hg hopen fun _ _ _ _ _ => rfl).bind fun _ g₁ g₂ hg => ?_
  exact log_agrees T.working hg .info (.same _ (.inr (by decide)))

/-- Generating the component, each session in the phase of its way, keeps them abreast. -/
theorem produce_agrees (T : Tandem k R S) (config : Config) (prompt : String)
    (h : f₁.Abreast k R .planning f₂) {plan : Plan} (hplan : f₁.session.plan = some plan) :
    Agrees (Flight.Stalled k R) (fun _ => Flight.Abreast k R k.left.phase)
      (produce config prompt k.left.phase k.left.announcement f₁)
      (produce config prompt k.right.phase k.right.announcement f₂) := by
  have hcurrent₁ : currentPlan f₁ = .ok plan f₁ := by simp [currentPlan, hplan]
  have hcurrent₂ : currentPlan f₂ = .ok plan f₂ := by
    simp [currentPlan, h.session.plan, hplan]
  unfold produce
  rw [bind_ok _ hcurrent₁, bind_ok _ hcurrent₂]
  have hadvance := advance_agrees (E := Flight.Stalled k R) T.working h k.left.canMoveTo_phase
    (.announced (.obj [("model", .str plan.modelId)]))
  rw [k.status_phase] at hadvance
  refine hadvance.bind fun _ g₁ g₂ hg => ?_
  have hopen := k.left.phase_isTerminal
  rw [get_bind, get_bind, hg.session.tenant]
  have hgenerate :=
    T.keeps_generate config g₁.session.tenant plan prompt g₁.world g₂.world hg.world
  refine (onWorld_agrees hg hopen hgenerate).bind fun generated g₁ g₂ hg => ?_
  exact (accept_agrees T generated hg hopen).bind fun _ _ _ hg => .ok hg

end FlightWork

end ArtifactPipeline
