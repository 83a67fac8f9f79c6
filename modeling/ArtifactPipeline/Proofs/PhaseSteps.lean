import ArtifactPipeline.Proofs.Entries
import ArtifactPipeline.Proofs.Steps
import ArtifactPipeline.Proofs.Within

/-!
# Every phase consists of steps

Whatever a phase of a session does, and wherever it breaks off, it takes a number of steps of the
session. So does a whole run, after the session has been created.
-/

namespace ArtifactPipeline

open Json

variable {σ π ε τ α β : Type}

namespace World

/-- The work on a session takes a world to another one and leaves the stored session and its stored
log alone. -/
def Asks (w w' : World σ π) : Prop :=
  ∃ effects, w.Moves effects w' ∧ ∀ e ∈ effects, e.isAside = true

/-- Reading the clock leaves the stored session alone. -/
theorem now_asks (w : World σ π) : w.Asks w.now.2 := w.now_within

/-- A call of the model leaves the stored session alone. -/
theorem invoke_asks [ModelService σ] (w : World σ π) (request : ModelRequest) :
    w.Asks (w.invoke request).2 := w.invoke_within request fun _ => rfl

/-- A request to publish leaves the stored session alone, granted or not. -/
theorem publish_asks [Publisher π] (w : World σ π) (session : Session) (code : String) :
    w.Asks (w.publish session code).2 := w.publish_within session code fun _ => rfl

end World

namespace Work

/-- The work leaves the stored session and its stored log alone, also if it fails. -/
def OnlyAsks (x : Work σ π α) : Prop := ∀ w : World σ π, w.Asks (endState (x w))

/-- Planning asks the model and lists patterns; it does not touch the stored session. -/
theorem makePlan_asks [ModelService σ] (config : Config) (prompt : String) (mood : Mood) :
    OnlyAsks (makePlan config prompt mood : Work σ π PlanningOutcome) := by
  have hclassify : (classify config prompt : Work σ π ClassificationOutcome).Within
      Effect.isAside := .bind (invoke_within _ fun _ => rfl) fun _ => .pure _
  exact Within.bind hclassify fun _ =>
    .bind (findSimilar_within _ fun _ _ => rfl) fun _ => .pure _

/-- Generation asks the model and reads patterns and the allowlist; it does not touch the stored
session. -/
theorem generate_asks [ModelService σ] (config : Config) (tenant : String) (plan : Plan)
    (prompt : String) : OnlyAsks (generate config tenant plan prompt : Work σ π Generated) :=
  Within.bind (generationPrompt_within config tenant plan (fun _ => rfl) fun _ _ => rfl) fun _ =>
    .bind (invoke_within _ fun _ => rfl) fun _ => .pure _

/-- A validation appends to the audit log, which is not the log of the session. -/
theorem validate_asks (code : String) (session : Option SessionId) (tenant : String) :
    OnlyAsks (validate code session tenant : Work σ π Verdict) :=
  validate_within code session tenant (fun _ => rfl) (fun _ => rfl) fun _ _ => rfl

end Work

/-- An escalation creates a review, which is not part of the session. -/
theorem escalate_asks (session : Session) (verdict : Verdict) (w : World σ π) :
    w.Asks (escalate session verdict w).2 :=
  escalate_within session verdict w fun _ _ => rfl

/-- Asking for a repair counts an attempt of the session, or leaves the session as it is. -/
theorem attemptRepair_asks [ModelService σ] (config : Config) (t : RepairTask) (s : Session)
    (w : World σ π) :
    w.Asks (attemptRepair config t s w).2 ∧
      ((attemptRepair config t s w).1.2 = s ∨
        s.status.isTerminal = false ∧
          (attemptRepair config t s w).1.2 = { s with attempts := s.attempts + 1 }) := by
  have hasks := w.invoke_asks (t.request config s.plan)
  unfold attemptRepair
  rcases hinvoke : w.invoke (t.request config s.plan) with ⟨_ | response, w'⟩
  · rw [hinvoke] at hasks
    exact ⟨hasks, Or.inl rfl⟩
  · rw [hinvoke] at hasks
    refine ⟨hasks, ?_⟩
    simp only [settleRepair]
    split
    · exact Or.inl rfl
    · cases hrecord : s.recordAttempt? with
      | none => exact Or.inl rfl
      | some counted =>
        unfold Session.recordAttempt? at hrecord
        split at hrecord
        · cases hrecord
        · next hopen =>
          cases hrecord
          exact Or.inr ⟨by simp_all, rfl⟩

namespace Flight

/-- The work on a session takes a number of steps. -/
def Goes (f f' : Flight σ π) : Prop :=
  ∃ effects, f.world.Moves effects f'.world ∧ f.run.Steps effects f'.run

/-- A session that is left as it is has taken no steps. -/
theorem Goes.refl (f : Flight σ π) : f.Goes f := ⟨[], .refl _, .refl _⟩

/-- The steps of two pieces of work are taken one after another. -/
theorem Goes.trans {f₁ f₂ f₃ : Flight σ π} (h₁ : f₁.Goes f₂) (h₂ : f₂.Goes f₃) : f₁.Goes f₃ := by
  obtain ⟨xs, hmoves₁, hsteps₁⟩ := h₁
  obtain ⟨ys, hmoves₂, hsteps₂⟩ := h₂
  exact ⟨xs ++ ys, hmoves₁.trans hmoves₂, hsteps₁.trans hsteps₂⟩

/-- What is asked on the side of a session is no step of it. -/
theorem Goes.ofWorld {f : Flight σ π} {w : World σ π} (h : f.world.Asks w) :
    f.Goes { f with world := w } := by
  obtain ⟨effects, hmoves, haside⟩ := h
  exact ⟨effects, hmoves, .ask _ haside⟩

/-- A session that has not ended may be changed. -/
theorem Goes.change {f : Flight σ π} {s : Session} (previous : List Attempt)
    (hopen : f.session.status.isTerminal = false) (horigin : s.origin = f.session.origin)
    (hstatus : s.status = f.session.status) :
    f.Goes { f with run := { f.run with session := s, previous } } :=
  ⟨[], .refl _, .single (.change hopen horigin hstatus)⟩

/-- A session that has not ended may be replaced by one of the same origin and status. -/
theorem withSession_goes {f : Flight σ π} {s : Session}
    (hopen : f.session.status.isTerminal = false) (horigin : s.origin = f.session.origin)
    (hstatus : s.status = f.session.status) : f.Goes (f.withSession s) :=
  .change f.run.previous hopen horigin hstatus

/-- Reading the clock for a session is no step of it. -/
theorem timed_goes (f : Flight σ π) : f.Goes f.timed := .ofWorld f.world.now_asks

/-- A log entry is a step, whether the store takes the entry or not. -/
theorem log_goes (level : LogLevel) (message : String) (data : Value) (f : Flight σ π) :
    f.Goes (f.log level message data) := by
  obtain ⟨failure, hmoves⟩ := f.log_moves level message data
  exact ⟨_, hmoves, .single (.log rfl rfl)⟩

/-- The session moves along an edge; the move is logged and stored. -/
theorem enter_goes {f : Flight σ π} {s : Session} (level : LogLevel) (message : String)
    (data : Value) (hedge : f.session.status.canMoveTo s.status = true)
    (horigin : s.origin = f.session.origin) :
    f.Goes ((f.withSession s).log level message data).persist := by
  let logged := (f.withSession s).log level message data
  obtain ⟨unlogged, hlog⟩ := (f.withSession s).log_moves level message data
  obtain ⟨unstored, -, hstore⟩ := logged.world.write_moves (.updateSession s) rfl
  exact ⟨_, hlog.trans hstore, .single (.move hedge horigin rfl rfl)⟩

/-- A move to a status writes an entry of that phase into the log, before anything else is said. -/
theorem Goes.after_moved {f f' : Flight σ π} {next : Status} {message : String} {data : Value}
    (h : (f.moved next message data).Goes f') :
    ∃ entry rest, entry.phase = next ∧ f'.run.history = f.run.history ++ entry :: rest ∧
      f'.run.pending = f.run.pending ++ entry :: rest := by
  let entry : LogEntry :=
    { session := f.session.id, phase := next, level := .info, message, data
      time := f.timed.world.now.1 }
  obtain ⟨effects, -, hsteps⟩ := h
  have hmoved : (f.moved next message data).run.history = f.run.history ++ [entry] := rfl
  have hpending : (f.moved next message data).run.pending = f.run.pending ++ [entry] := rfl
  refine ⟨entry, effects.filterMap Effect.logged?, rfl, ?_, ?_⟩
  · rw [hsteps.owns.history, hmoved, List.append_assoc]
    rfl
  · rw [hsteps.owns.pending, hpending, List.append_assoc]
    rfl

/-- Counting the uses of the patterns of a plan is done on the side of the session, pattern by
pattern. -/
theorem countPatterns_goes (success : Bool) (f : Flight σ π) :
    f.Goes (f.countPatterns success) := by
  have hcount (references : List PatternReference) (w : World σ π) :
      w.Asks (references.foldl
        (fun w reference => (w.write (.recordPatternUsage reference.id success)).2) w) := by
    induction references generalizing w with
    | nil => exact World.Within.refl w
    | cons reference references ih =>
      have hfirst := w.write_within (p := Effect.isAside)
        (.recordPatternUsage reference.id success) rfl fun _ => rfl
      exact hfirst.trans (ih _)
  exact .ofWorld (hcount _ _)

end Flight

namespace FlightWork

/-- Work in two parts consists of steps if the first part does, and the second does wherever the
first one led. -/
theorem goes_bind {x : FlightWork σ π α} {g : α → FlightWork σ π β} {f : Flight σ π}
    (hx : f.Goes (endState (x f)))
    (hg : ∀ a f', x f = .ok a f' → f'.Goes (endState (g a f'))) :
    f.Goes (endState ((x >>= g) f)) := by
  cases hresult : x f with
  | ok a f' =>
    rw [hresult] at hx
    rw [bind_ok g hresult]
    exact hx.trans (hg a f' hresult)
  | error e f' =>
    rw [hresult] at hx
    rw [bind_error g hresult]
    exact hx

/-- Work may go on with a changed session only if the session has not ended. -/
theorem goes_step_bind {change : Session → Session} {g : Unit → FlightWork σ π β} {f : Flight σ π}
    (horigin : (change f.session).origin = f.session.origin)
    (hstatus : (change f.session).status = f.session.status)
    (hg : f.session.status.isTerminal = false →
      (f.withSession (change f.session)).Goes
        (endState (g () (f.withSession (change f.session))))) :
    f.Goes (endState ((step (·.modify change) >>= g) f)) := by
  cases hopen : f.session.status.isTerminal with
  | false =>
    rw [step_bind g (Session.modify_eq change hopen)]
    exact (Flight.withSession_goes hopen horigin hstatus).trans (hg hopen)
  | true =>
    have hrefused : step (·.modify change) f =
        .error (.frozen f.session.id f.session.status) f := by
      simp [step, Session.modify, hopen]
    rw [bind_error g hrefused]
    exact .refl f

/-- A change that consists of steps may be followed by any work that does. -/
theorem goes_modify_bind {change : Flight σ π → Flight σ π} {g : PUnit → FlightWork σ π β}
    {f : Flight σ π} (hchange : f.Goes (change f))
    (hg : (change f).Goes (endState (g ⟨⟩ (change f)))) :
    f.Goes (endState ((modify change >>= g) f)) := hchange.trans hg

/-- Work on the world that leaves the stored session alone may be done in the course of a
session. -/
theorem onWorld_goes {work : Work σ π α} (h : work.OnlyAsks) (f : Flight σ π) :
    f.Goes (endState (onWorld work f)) := by
  have hworld := h f.world
  unfold onWorld
  cases hresult : work f.world with
  | ok a w =>
    rw [hresult] at hworld
    exact .ofWorld hworld
  | error e w =>
    rw [hresult] at hworld
    exact .ofWorld hworld

/-- A move to another status is taken as a step, or refused without one. -/
theorem advance_goes (next : Status) (message : String) (data : Value) (f : Flight σ π) :
    f.Goes (endState (advance next message data f)) := by
  by_cases hedge : f.session.status.canMoveTo next = true
  · rw [advance_eq next message data hedge]
    exact f.timed_goes.trans (Flight.enter_goes .info message data hedge rfl)
  · have hstep : step (·.transition next f.world.now.1) f.timed =
        .error (.invalidTransition f.session.status next) f.timed := by
      simp only [step, Session.transition]
      rw [if_neg (show ¬ f.timed.session.status.canMoveTo next = true from hedge)]
      rfl
    rw [advance, bind_ok _ (now_eq f), bind_error _ hstep]
    exact f.timed_goes

/-- Failing a session is a step if it has not ended, and nothing otherwise. -/
theorem fail_goes (failure : Failure) (f : Flight σ π) : f.Goes (endState (fail failure f)) := by
  cases hopen : f.session.status.isTerminal with
  | false =>
    have hedge : f.session.status.canMoveTo .failed = true := by
      rw [Status.canMoveTo_failed, hopen]
      rfl
    rw [fail_eq failure hopen]
    exact f.timed_goes.trans (Flight.enter_goes .error _ _ hedge rfl)
  | true =>
    have hedge : f.timed.session.status.canMoveTo .failed = false := by
      show f.session.status.canMoveTo .failed = false
      rw [Status.canMoveTo_failed, hopen]
      rfl
    have hstep : step (·.fail failure.message f.world.now.1) f.timed =
        .error (.invalidTransition f.session.status .failed) f.timed := by
      simp only [step, Session.fail, Session.transition, hedge]
      rfl
    rw [fail, get_bind, bind_ok _ (now_eq f), bind_error _ hstep]
    exact f.timed_goes

/-- The planning of a session consists of steps. -/
theorem plan_goes [ModelService σ] (config : Config) (f : Flight σ π) :
    f.Goes (endState (plan config f)) := by
  unfold plan
  refine goes_bind (advance_goes _ _ _ f) fun _ f₁ _ => ?_
  rw [get_bind]
  refine goes_bind (onWorld_goes (Work.makePlan_asks _ _ _) f₁) fun outcome f₂ _ => ?_
  refine goes_step_bind rfl rfl fun hopen => ?_
  refine goes_modify_bind (Flight.log_goes _ _ _ _) ?_
  exact Flight.withSession_goes hopen rfl rfl

/-- Generated code is counted and kept in the session that asked for it. -/
theorem accept_goes (generated : Generated) (f : Flight σ π) :
    f.Goes (endState (accept generated f)) := by
  unfold accept
  refine goes_step_bind rfl rfl fun _ => ?_
  refine goes_step_bind rfl rfl fun _ => ?_
  exact Flight.log_goes _ _ _ _

/-- A generation consists of steps, from the prompt to the code that is kept. -/
theorem produce_goes [ModelService σ] (config : Config) (prompt : String) (phase : Status)
    (message : String) (f : Flight σ π) :
    f.Goes (endState (produce config prompt phase message f)) := by
  have hcurrent : f.Goes (endState (currentPlan f)) := by
    unfold currentPlan
    cases f.session.plan <;> exact .refl f
  unfold produce
  refine goes_bind hcurrent fun plan f₁ _ => ?_
  refine goes_bind (advance_goes _ _ _ f₁) fun _ f₂ _ => ?_
  rw [get_bind]
  refine goes_bind (onWorld_goes (Work.generate_asks _ _ _ _) f₂) fun generated f₃ _ => ?_
  exact goes_bind (accept_goes generated f₃) fun _ f₄ _ => .refl f₄

/-- A session is completed from a status in which it has not ended. -/
theorem complete_goes [Publisher π] (code : String) {f : Flight σ π}
    (hopen : f.session.status.isTerminal = false) : f.Goes (endState (complete code f)) := by
  have hpublish := f.world.publish_asks f.session code
  unfold complete
  refine goes_modify_bind ?_ ?_
  · rcases hresult : f.world.publish f.session code with ⟨_ | name, w⟩
    · rw [hresult] at hpublish
      exact (Flight.Goes.ofWorld hpublish).trans (Flight.log_goes _ _ _ _)
    · rw [hresult] at hpublish
      exact (Flight.Goes.ofWorld hpublish).trans (Flight.withSession_goes hopen rfl rfl)
  · rw [get_bind]
    exact goes_bind (advance_goes _ _ _ _) fun _ f' _ => Flight.countPatterns_goes _ f'

/-- A rejection of a session consists of steps. -/
theorem reject_goes (message : String) (data : Value) (f : Flight σ π) :
    f.Goes (endState (reject message data f)) :=
  goes_bind (advance_goes _ _ _ f) fun _ f' _ => Flight.countPatterns_goes _ f'

/-- A session that has no attempt left is rejected, after an escalation if it is due. -/
theorem giveUp_goes (verdict : Verdict) (f : Flight σ π) :
    f.Goes (endState (giveUp verdict f)) :=
  (Flight.Goes.ofWorld (escalate_asks f.session verdict f.world)).trans (reject_goes _ _ _)

/-- What follows a repair consists of steps, whether it gave code or not. -/
theorem followUp_goes (code : String) (errors : List String) (attempt : Nat)
    (outcome : RepairOutcome) (f : Flight σ π) :
    f.Goes (endState (followUp code errors attempt outcome f)) := by
  unfold followUp
  refine goes_step_bind rfl rfl fun hopen => ?_
  split
  · refine goes_modify_bind (Flight.Goes.change _ hopen rfl rfl) ?_
    refine goes_step_bind rfl rfl fun _ => ?_
    exact goes_modify_bind (Flight.log_goes _ _ _ _) (.refl _)
  · exact goes_bind (reject_goes _ _ _) fun _ f' _ => .refl f'

/-- A repair consists of steps, from the prompt to what follows it. -/
theorem repair_goes [ModelService σ] (config : Config) (code : String) (errors : List String)
    (f : Flight σ π) : f.Goes (endState (repair config code errors f)) := by
  rw [repair_eq, get_bind]
  refine goes_bind (advance_goes _ _ _ f) fun _ f₁ _ => ?_
  rw [get_bind]
  let task : RepairTask := {
    code
    errors
    attempt := f.session.attempts + 1
    maxAttempts := f.session.maxAttempts
    previous := f₁.run.previous }
  obtain ⟨hasks, hsession⟩ := attemptRepair_asks config task f₁.session f₁.world
  rcases hasked : attemptRepair config task f₁.session f₁.world with ⟨⟨outcome, s⟩, w⟩
  rw [hasked] at hasks hsession
  let asked : Flight σ π := { f₁ with world := w }
  rw [modifyGet_bind outcome (asked.withSession s) _
    (by simp only [task] at hasked; simp only [hasked, asked])]
  have hanswered : f₁.Goes (asked.withSession s) := by
    refine (Flight.Goes.ofWorld hasks).trans ?_
    rcases hsession with rfl | ⟨hopen, rfl⟩
    · exact .refl asked
    · exact Flight.withSession_goes hopen rfl rfl
  exact hanswered.trans (followUp_goes _ _ _ outcome _)

/-- What follows a verdict consists of steps: the code is published, or repaired, or given up.
-/
theorem conclude_goes [ModelService σ] [Publisher π] (config : Config) (code : String)
    (verdict : Verdict) (f : Flight σ π) : f.Goes (endState (conclude config code verdict f)) := by
  unfold conclude
  refine goes_step_bind rfl rfl fun hopen => ?_
  split
  · refine goes_modify_bind (Flight.log_goes _ _ _ _) ?_
    exact goes_bind (complete_goes code hopen) fun _ f' _ => .refl f'
  · refine goes_modify_bind (Flight.log_goes _ _ _ _) ?_
    rw [get_bind]
    split
    · exact goes_bind (giveUp_goes verdict _) fun _ f' _ => .refl f'
    · exact repair_goes config code _ _

/-- A round moves a session that may be validated to its validation first, whatever follows. -/
theorem round_opens [ModelService σ] [Publisher π] (config : Config) {f : Flight σ π}
    (hedge : f.session.status.canMoveTo .validating = true) :
    (f.moved .validating "Validating component" (.obj [("attempt", .nat f.session.attempts)])).Goes
      (endState (round config f)) := by
  rw [round_eq, get_bind, bind_ok _ (advance_eq _ _ _ hedge), get_bind]
  exact goes_bind (onWorld_goes (Work.validate_asks _ _ _) _) fun verdict f' _ =>
    conclude_goes config _ verdict f'

/-- A round, one validation and what follows it, consists of steps. -/
theorem round_goes [ModelService σ] [Publisher π] (config : Config) (f : Flight σ π) :
    f.Goes (endState (round config f)) := by
  rw [round_eq, get_bind]
  refine goes_bind (advance_goes _ _ _ f) fun _ f₁ _ => ?_
  rw [get_bind]
  exact goes_bind (onWorld_goes (Work.validate_asks _ _ _) f₁) fun verdict f₂ _ =>
    conclude_goes config _ verdict f₂

/-- Any number of rounds consists of steps. -/
theorem settle_goes [ModelService σ] [Publisher π] (config : Config) (rounds : Nat)
    (f : Flight σ π) : f.Goes (endState (settle config rounds f)) := by
  induction rounds generalizing f with
  | zero => exact .refl f
  | succ rounds ih =>
    refine goes_bind (round_goes config f) fun next f' _ => ?_
    cases next with
    | finished => exact .refl f'
    | again => exact ih f'

/-- Rounds of validation begin with a move to the validation as well. -/
theorem settle_opens [ModelService σ] [Publisher π] (config : Config) (rounds : Nat)
    {f : Flight σ π} (hedge : f.session.status.canMoveTo .validating = true) :
    (f.moved .validating "Validating component" (.obj [("attempt", .nat f.session.attempts)])).Goes
      (endState (settle config (rounds + 1) f)) := by
  have hround := round_opens config hedge
  rw [settle]
  cases hresult : round config f with
  | error e f' =>
    rw [hresult] at hround
    rw [bind_error _ hresult]
    exact hround
  | ok next f' =>
    rw [hresult] at hround
    rw [bind_ok _ hresult]
    cases next with
    | finished => exact hround
    | again => exact hround.trans (settle_goes config rounds f')

/-- Work whose failure fails the session consists of steps if the work does. -/
theorem orFail_goes {work : FlightWork σ π Unit} {f g : Flight σ π}
    (h : g.Goes (endState (work f))) : g.Goes (endState (orFail work f)) := by
  cases hresult : work f with
  | ok _ f' =>
    rw [hresult] at h
    rw [orFail_ok hresult]
    exact h
  | error e f' =>
    rw [hresult] at h
    rw [orFail_error hresult]
    exact h.trans (fail_goes e f')

/-- The phases of a run consist of steps, for either entry point. -/
theorem driveAs_goes [ModelService σ] [Publisher π] (entry : Entry) (config : Config)
    (request : ComponentRequest) (f : Flight σ π) :
    f.Goes (endState (driveAs entry config request f)) := by
  refine goes_bind (plan_goes config f) fun _ f₁ _ => ?_
  refine goes_bind (produce_goes config _ _ _ f₁) fun _ f₂ _ => ?_
  exact settle_goes config _ f₂

/-- A whole run consists of steps from the created session on, for either entry point. -/
theorem runAs_goes [ModelService σ] [Publisher π] (entry : Entry) (config : Config)
    (request : ComponentRequest) (f : Flight σ π) :
    f.Goes (endState (runAs entry config request f)) :=
  orFail_goes (driveAs_goes entry config request f)

end FlightWork

/-- No call of a store that is offline succeeds. -/
theorem World.online_of_write {w : World σ π} {c : StoreCall} (h : (w.write c).1 = true) :
    w.store.offline = false := by
  cases hoffline : w.store.offline with
  | false => rfl
  | true =>
    simp only [write, call, reply, MemoryStore.call, hoffline] at h
    split at h
    · next hreply => split at hreply <;> cases hreply
    · cases h

/-- The session was created in a world, if the store took it, and was worked on in steps since
then. -/
structure Flight.Since (w : World σ π) (created : Session) (creation : Option StoreError)
    (steps : List Effect) (f : Flight σ π) : Prop where
  moves : w.Moves (.store (.createSession created) creation :: steps) f.world
  steps : ({ session := created } : SessionRun).Steps steps f.run
  online : creation = none → w.store.offline = false

namespace Flight

/-- A session is created, and its log begins, before anything else is done for it. -/
theorem start_since (config : Config) (request : ComponentRequest) (w : World σ π) :
    ∃ creation entry unlogged, (start config request w).Since w (start config request w).session
      creation [.store (.appendLog entry) unlogged] := by
  let timed := w.freshId.2.now.2
  let session := Session.new w.freshId.1 request config.pipeline.maxAttempts w.freshId.2.now.1
  obtain ⟨creation, hcreated, hcreate⟩ := timed.write_moves (.createSession session) rfl
  have honline (hnone : creation = none) : timed.store.offline = false :=
    World.online_of_write (by rw [hcreated, hnone]; rfl)
  let opened : Flight σ π :=
    { run := { session }, world := (timed.write (.createSession session)).2 }
  obtain ⟨unlogged, hmoves⟩ := opened.log_moves .info "Session created" (.obj [
    ("mood", request.mood.toJson),
    ("max_reflexion_attempts", .nat config.pipeline.maxAttempts)])
  have hbegun := (w.freshId_moves.trans w.freshId.2.now_moves).trans hcreate
  exact ⟨creation, _, unlogged, hbegun.trans hmoves, .single (.log rfl rfl), honline⟩

end Flight

namespace Flight.Since

variable {w : World σ π} {created : Session} {creation : Option StoreError} {steps : List Effect}
  {f f' : Flight σ π}

/-- The session keeps the id with which it was created. -/
theorem id (h : f.Since w created creation steps) : f.session.id = created.id := h.steps.owns.id

/-- The log of the session holds what was logged in these steps, in this order. -/
theorem history (h : f.Since w created creation steps) :
    f.run.history = steps.filterMap Effect.logged? := h.steps.owns.history

/-- What goes on in steps since a session was created has gone on in steps since then. -/
theorem goes (h : f.Since w created creation steps) (hgoes : f.Goes f') :
    ∃ effects, f.world.Moves effects f'.world ∧
      f'.Since w created creation (steps ++ effects) := by
  obtain ⟨effects, hmoves, hsteps⟩ := hgoes
  exact ⟨effects, hmoves, h.moves.trans hmoves, h.steps.trans hsteps, h.online⟩

end Flight.Since

/-- Whatever a run did since it created its session, it did in steps. -/
theorem FlightWork.runAs_since [ModelService σ] [Publisher π] {entry : Entry} {config : Config}
    {request : ComponentRequest} {w : World σ π} {f : Flight σ π}
    (hrun : runAs entry config request (Flight.start config request w) = .ok () f) :
    ∃ creation steps, f.Since w (Flight.start config request w).session creation steps := by
  obtain ⟨creation, first, unlogged, hsince⟩ := Flight.start_since config request w
  have hgoes := runAs_goes entry config request (Flight.start config request w)
  rw [hrun] at hgoes
  obtain ⟨ys, -, hended⟩ := hsince.goes hgoes
  exact ⟨creation, _, hended⟩

end ArtifactPipeline
