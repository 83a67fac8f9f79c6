import ArtifactPipeline.Proofs.ModelCalls

/-!
# What a round hands to the model

A round that repairs a component hands the model the component as it stands, the reasons why it has
just been rejected, and the repairs before. All this is read off the flight that the round begins
with. A reply with code makes that code the component; without it, the component stays and the round
is the last one.
-/

namespace ArtifactPipeline

variable {σ π α β : Type}

/-- The code that a reply holds, if there is a reply and it holds some. -/
def repairedCode? : Except Failure ModelResponse → Option String
  | .ok response =>
    let code := Component.extractCode response.content.toList
    if code.isEmpty then none else some (String.ofList code)
  | .error _ => none

/-- What a round is to hand to the model if it repairs the component of a flight. -/
def Flight.repairTask (f : Flight σ π) : RepairTask where
  code := f.code
  errors := f.verdict.errorMessages
  attempt := f.session.attempts + 1
  maxAttempts := f.session.maxAttempts
  previous := f.run.previous

/-- The request for that repair. -/
def Flight.repairRequest (config : Config) (f : Flight σ π) : ModelRequest :=
  f.repairTask.request config f.session.plan

/-- The session is still the one of the same request, with the same plan. -/
structure Flight.Keeps (f f' : Flight σ π) : Prop where
  origin : f'.session.origin = f.session.origin
  plan : f'.session.plan = f.session.plan

/-! ## The repairs before -/

namespace FlightWork

/-- The work leaves the list of the repairs that did not pass as it is. -/
def KeepsPrevious (work : FlightWork σ π α) : Prop :=
  ∀ f, (endState (work f)).run.previous = f.run.previous

/-- Work in two parts keeps the list of the repairs if both parts do. -/
theorem KeepsPrevious.bind {work : FlightWork σ π α} {next : α → FlightWork σ π β}
    (hwork : KeepsPrevious work) (hnext : ∀ a, KeepsPrevious (next a)) :
    KeepsPrevious (work >>= next) := by
  intro f
  have hfirst := hwork f
  cases hresult : work f with
  | ok a f' =>
    rw [hresult] at hfirst
    rw [bind_ok _ hresult, hnext a f']
    exact hfirst
  | error e f' =>
    rw [hresult] at hfirst
    rw [bind_error _ hresult]
    exact hfirst

/-- Looking at the flight keeps the list of the repairs. -/
theorem get_keepsPrevious : KeepsPrevious (get : FlightWork σ π (Flight σ π)) := fun _ => rfl

/-- Giving a value keeps the list of the repairs. -/
theorem pure_keepsPrevious (a : α) : KeepsPrevious (pure a : FlightWork σ π α) := fun _ => rfl

/-- A change of something else keeps the list of the repairs. -/
theorem modify_keepsPrevious {change : Flight σ π → Flight σ π}
    (h : ∀ f, (change f).run.previous = f.run.previous) :
    KeepsPrevious (modify change : FlightWork σ π PUnit) := h

/-- A log entry keeps the list of the repairs. -/
theorem log_keepsPrevious (level : LogLevel) (message : String) (data : Json.Value) :
    KeepsPrevious (modify (Flight.log level message data) : FlightWork σ π PUnit) :=
  modify_keepsPrevious fun _ => rfl

/-- A change of the session keeps the list of the repairs, granted or not. -/
theorem step_keepsPrevious (change : Session → Except Failure Session) :
    KeepsPrevious (step change : FlightWork σ π Unit) := by
  intro f
  rw [step]
  cases change f.session <;> rfl

/-- Work on the world keeps the list of the repairs. -/
theorem onWorld_keepsPrevious (work : Work σ π α) : KeepsPrevious (onWorld work) := by
  intro f
  rw [onWorld]
  cases work f.world <;> rfl

/-- A move to another status keeps the list of the repairs. -/
theorem advance_keepsPrevious (next : Status) (message : String) (data : Json.Value) :
    KeepsPrevious (advance next message data : FlightWork σ π Unit) :=
  .bind (fun _ => rfl) fun _ => .bind (step_keepsPrevious _) fun _ =>
    .bind (log_keepsPrevious _ _ _) fun _ => modify_keepsPrevious fun _ => rfl

variable [ModelService σ]

/-- Planning keeps the list of the repairs. -/
theorem plan_keepsPrevious (config : Config) :
    KeepsPrevious (plan config : FlightWork σ π Unit) :=
  .bind (advance_keepsPrevious _ _ _) fun _ => .bind get_keepsPrevious fun _ =>
    .bind (onWorld_keepsPrevious _) fun _ => .bind (step_keepsPrevious _) fun _ =>
      .bind (log_keepsPrevious _ _ _) fun _ => modify_keepsPrevious fun _ => rfl

/-- A generation keeps the list of the repairs. -/
theorem produce_keepsPrevious (config : Config) (prompt : String) (phase : Status)
    (message : String) :
    KeepsPrevious (produce config prompt phase message : FlightWork σ π Generated) := by
  have hcurrent : KeepsPrevious (currentPlan : FlightWork σ π Plan) := by
    intro f
    rw [currentPlan]
    cases f.session.plan <;> rfl
  have haccept (generated : Generated) :
      KeepsPrevious (accept generated : FlightWork σ π Unit) :=
    .bind (step_keepsPrevious _) fun _ => .bind (step_keepsPrevious _) fun _ =>
      log_keepsPrevious _ _ _
  exact .bind hcurrent fun _ => .bind (advance_keepsPrevious _ _ _) fun _ =>
    .bind get_keepsPrevious fun _ => .bind (onWorld_keepsPrevious _) fun generated =>
      .bind (haccept generated) fun _ => pure_keepsPrevious _

end FlightWork

/-! ## Asking for a repair -/

section Asking

variable [ModelService σ] (config : Config) (t : RepairTask) {s : Session} {w : World σ π}

/-- Without code in the reply a repair has no success, and counts for nothing. -/
theorem attemptRepair_fruitless
    (h : repairedCode? (w.invoke (t.request config s.plan)).1 = none) :
    ∃ outcome, attemptRepair config t s w =
        ((outcome, s), (w.invoke (t.request config s.plan)).2) ∧
      outcome.success = false := by
  rw [attemptRepair]
  rcases hresult : w.invoke (t.request config s.plan) with ⟨e | response, w'⟩
  · exact ⟨_, rfl, rfl⟩
  · rw [hresult] at h
    by_cases hcode : (Component.extractCode response.content.toList).isEmpty = true
    · simp only [settleRepair, if_pos hcode]
      exact ⟨_, rfl, rfl⟩
    · simp [repairedCode?, hcode] at h

/-- With code in the reply a repair has success with that code, and counts as an attempt. -/
theorem attemptRepair_fruitful {code : String} (hopen : s.status.isTerminal = false)
    (hleft : s.attempts < s.maxAttempts)
    (h : repairedCode? (w.invoke (t.request config s.plan)).1 = some code) :
    ∃ outcome, attemptRepair config t s w =
        ((outcome, { s with attempts := s.attempts + 1 }),
          (w.invoke (t.request config s.plan)).2) ∧
      outcome.success = true ∧ outcome.code = code := by
  rw [attemptRepair]
  rcases hresult : w.invoke (t.request config s.plan) with ⟨e | response, w'⟩
  · rw [hresult] at h
    cases h
  · rw [hresult] at h
    by_cases hcode : (Component.extractCode response.content.toList).isEmpty = true
    · simp [repairedCode?, hcode] at h
    · simp only [repairedCode?, if_neg hcode, Option.some.injEq] at h
      simp only [settleRepair, if_neg hcode, Session.recordAttempt?_eq hopen hleft]
      exact ⟨_, rfl, rfl, h⟩

end Asking

variable [ModelService σ] [Publisher π]

/-- The round that begins with a flight asks the model for a repair: the component has been judged
and rejected, the session holds the verdict, an attempt is left, and what the round does is what
follows from asking with the task that the flight gives. -/
structure Flight.HandsOver (config : Config) (f asked : Flight σ π) : Prop where
  rejected : f.verdict.isValid = false
  left : f.session.attempts < f.session.maxAttempts
  yields : ∃ t, f.Yields t asked ∧ t.calls = []
  core : asked.session.core =
    { f.session.core with status := .reflexion, verdict := some f.verdict }
  previous : asked.run.previous = f.run.previous
  round : ∀ outcome session world,
    attemptRepair config f.repairTask asked.session asked.world = ((outcome, session), world) →
    FlightWork.round config f =
      FlightWork.followUp f.repairTask.code f.repairTask.errors f.repairTask.attempt outcome
        (Flight.withSession { asked with world } session)

/-- How a round ends, by the repair that it asks for. -/
inductive RoundRepairs (config : Config) (f : Flight σ π) :
    EStateM.Result Failure (Flight σ π) Round → Prop
  | unasked {result : EStateM.Result Failure (Flight σ π) Round} {t : Tally} :
    f.Yields t (endState result) → t.calls = [] → f.Keeps (endState result) →
    (endState result).session.code = f.session.code → (∀ f', result ≠ .ok .again f') →
    RoundRepairs config f result
  | fruitless {asked f' : Flight σ π} {result : Except Failure ModelResponse} {t : Tally} :
    f.HandsOver config asked → f.Yields t f' → t.calls = [(f.repairRequest config, result)] →
    repairedCode? result = none → f.Keeps f' → f'.session.code = f.session.code →
    RoundRepairs config f (.ok .finished f')
  | fruitful {asked f' : Flight σ π} {result : Except Failure ModelResponse} {t : Tally}
    {code : String} :
    f.HandsOver config asked → f.Yields t f' → t.calls = [(f.repairRequest config, result)] →
    repairedCode? result = some code → f.Keeps f' → f'.session.code = some code →
    f'.session.attempts = f.session.attempts + 1 →
    f'.run.previous = f.run.previous ++ [⟨f.repairTask.code, f.repairTask.errors⟩] →
    RoundRepairs config f (.ok .again f')

namespace FlightWork

variable {config : Config} {f asked : Flight σ π}

/-- A round asks for nothing if the component passes, if no attempt is left, or if it breaks off. -/
theorem RoundEnds.unasked {result : EStateM.Result Failure (Flight σ π) Round}
    (h : RoundEnds f result)
    (hno : f.verdict.isValid = true ∨ f.session.maxAttempts ≤ f.session.attempts ∨
      ∃ e f', result = .error e f') : RoundRepairs config f result := by
  cases h with
  | broken before hyields _ _ hcore =>
    have hplan := congrArg Session.plan hcore
    exact .unasked hyields rfl ⟨hyields.origin, hplan⟩ (congrArg Session.code hcore :) (by simp)
  | completed hyields _ _ hcore | exhausted hyields _ _ _ _ hcore =>
    have hplan := congrArg Session.plan hcore
    exact .unasked hyields rfl ⟨hyields.origin, hplan⟩ (congrArg Session.code hcore :) (by simp)
  | unrepaired _ _ hinvalid hleft | repaired _ _ _ hinvalid hleft =>
    rcases hno with hvalid | hnone | ⟨e, f', herror⟩
    · rw [hinvalid] at hvalid
      cases hvalid
    · omega
    · cases herror

/-- A rejected component is repaired while attempts are left. -/
theorem conclude_repairs (config : Config) (code : String) {verdict : Verdict}
    (hstatus : f.session.status = .validating) (hinvalid : verdict.isValid = false)
    (hleft : f.session.attempts < f.session.maxAttempts) :
    ∃ judged, conclude config code verdict f = repair config code verdict.errorMessages judged ∧
      f.Yields {} judged ∧ judged.run.previous = f.run.previous ∧
      judged.session = { f.session with verdict := some verdict } := by
  have hopen : f.session.status.isTerminal = false := by rw [hstatus]; rfl
  let ruled : Flight σ π := f.withSession { f.session with verdict := some verdict }
  let judged : Flight σ π := ruled.log .warn "Validation failed" (verdictData verdict)
  have hruled : f.Yields {} ruled := Flight.withSession_yields f rfl
  have hjudged : ruled.Yields {} judged :=
    Flight.log_quiet _ _ (repairNumber?_of_ne _ (by decide))
  have hexhausted : ¬ isExhausted judged.session.attempts judged.session.maxAttempts = true := by
    simpa [isExhausted, judged, ruled] using hleft
  refine ⟨judged, ?_, hruled.then_quietly hjudged, rfl, rfl⟩
  rw [conclude, step_bind _ (Session.modify_eq _ hopen), hinvalid, if_neg (by decide), modify_bind,
    get_bind, if_neg hexhausted]

omit [Publisher π] in
/-- A repair is what follows from asking the model with what is known of the component. -/
theorem repair_asks (config : Config) (code : String) (errors : List String)
    (hstatus : f.session.status = .validating) :
    ∃ asked, (∃ t, f.Yields t asked ∧ t.calls = []) ∧
      asked.session.core = { f.session.core with status := .reflexion } ∧
      asked.run.previous = f.run.previous ∧
      ∀ outcome session world,
        attemptRepair config {
            code
            errors
            attempt := f.session.attempts + 1
            maxAttempts := f.session.maxAttempts
            previous := f.run.previous } asked.session asked.world =
          ((outcome, session), world) →
        repair config code errors f =
          followUp code errors (f.session.attempts + 1) outcome
            (Flight.withSession { asked with world } session) := by
  let data : Json.Value := .obj [
    ("attempt", .nat (f.session.attempts + 1)), ("max_attempts", .nat f.session.maxAttempts)]
  obtain ⟨asked, hadvance, hyields, hcore⟩ :=
    advance_spec (f := f) .reflexion "Repairing component" data (by rw [hstatus]; rfl)
  have hprevious : asked.run.previous = f.run.previous := by
    have h := advance_keepsPrevious .reflexion "Repairing component" data f
    rwa [hadvance] at h
  refine ⟨asked, ⟨_, hyields, rfl⟩, hcore, hprevious, fun outcome session world h => ?_⟩
  rw [repair_eq, get_bind, bind_ok _ hadvance, get_bind,
    modifyGet_bind outcome (Flight.withSession { asked with world } session)]
  rw [hprevious, h]

/-- A round that comes to reject the component of its flight, with an attempt left, hands over the
task of the flight. -/
theorem conclude_hands_over {judged : Flight σ π} {t : Tally} (hyields : f.Yields t judged)
    (hcalls : t.calls = [])
    (hcore : judged.session.core = { f.session.core with status := .validating })
    (hprevious : judged.run.previous = f.run.previous) (hinvalid : f.verdict.isValid = false)
    (hleft : f.session.attempts < f.session.maxAttempts)
    (hround : round config f = conclude config f.code f.verdict judged) :
    ∃ asked, f.HandsOver config asked := by
  have hattempts : judged.session.attempts = f.session.attempts :=
    (congrArg Session.attempts hcore :)
  have hlimit : judged.session.maxAttempts = f.session.maxAttempts :=
    (congrArg Session.maxAttempts hcore :)
  obtain ⟨ruled, hconclude, hruled, hprevious', hsession⟩ :=
    conclude_repairs config f.code (congrArg Session.status hcore) hinvalid
      (by rwa [hattempts, hlimit])
  have hcore' : ruled.session.core =
      { f.session.core with status := .validating, verdict := some f.verdict } := by
    rw [hsession]
    exact congrArg (fun s : Session => { s with verdict := some f.verdict }) hcore
  obtain ⟨asked, ⟨t', hasked, hcalls'⟩, hreflexion, hkept, hasks⟩ :=
    repair_asks config f.code f.verdict.errorMessages (f := ruled) (congrArg Session.status hcore')
  have hattempts' : ruled.session.attempts = f.session.attempts :=
    (congrArg Session.attempts hcore' :)
  have hlimit' : ruled.session.maxAttempts = f.session.maxAttempts :=
    (congrArg Session.maxAttempts hcore' :)
  rw [hprevious] at hprevious'
  rw [hattempts', hlimit', hprevious'] at hasks
  refine ⟨asked, hinvalid, hleft, ⟨_, (hyields.trans hruled).trans hasked, ?_⟩, ?_,
    hkept.trans hprevious', fun outcome session world hattempt => ?_⟩
  · simp [hcalls, hcalls']
  · exact hreflexion.trans (congrArg (fun s : Session => { s with status := .reflexion }) hcore')
  · rw [hround, hconclude]
    exact hasks outcome session world hattempt

/-- A round asks for nothing, or it hands over the task of its flight. -/
theorem round_hands_over (config : Config)
    (hedge : f.session.status.canMoveTo .validating = true) :
    RoundRepairs config f (round config f) ∨ ∃ asked, f.HandsOver config asked := by
  have hends := round_ends config hedge
  obtain ⟨f₁, hadvance, hyields₁, hcore₁⟩ := advance_quiet (f := f) .validating
    "Validating component" (.obj [("attempt", .nat f.session.attempts)]) hedge rfl
  have hprevious₁ : f₁.run.previous = f.run.previous := by
    have h := advance_keepsPrevious .validating "Validating component"
      (.obj [("attempt", .nat f.session.attempts)]) f
    rwa [hadvance] at h
  have hcode : f₁.code = f.code := (congrArg (·.code.getD "") hcore₁ :)
  have hverdict : f₁.verdict = f.verdict := hyields₁.verdict hcore₁
  have hjudgement := judgement_ends f₁
  have hround : round config f = (onWorld (validate f₁.code (some f₁.session.id) f₁.session.tenant)
      >>= fun verdict => conclude config f₁.code verdict) f₁ := by
    rw [round_eq, get_bind, bind_ok _ hadvance, get_bind]
  cases hresult : onWorld (validate f₁.code (some f₁.session.id) f₁.session.tenant) f₁ with
  | error e f₂ =>
    rw [bind_error _ hresult] at hround
    exact .inl (hends.unasked (.inr (.inr ⟨e, f₂, hround⟩)))
  | ok verdict f₂ =>
    rw [bind_ok _ hresult, hcode] at hround
    rw [hresult] at hjudgement
    cases hjudgement with
    | judged hyields₂ _ hrun =>
      rw [hverdict] at hround
      by_cases hvalid : f.verdict.isValid = true
      · exact .inl (hends.unasked (.inl hvalid))
      by_cases hleft : f.session.maxAttempts ≤ f.session.attempts
      · exact .inl (hends.unasked (.inr (.inl hleft)))
      have hsession : f₂.session = f₁.session := congrArg SessionRun.session hrun
      exact .inr (conclude_hands_over (hyields₁.quietly hyields₂) rfl (by rw [hsession, hcore₁])
        (by rw [hrun, hprevious₁]) (by simpa using hvalid) (by omega) hround)

/-- The model is called with the request of the flight, and what is made of the session then calls
for nothing more. -/
theorem handsOver_answered {result : Except Failure ModelResponse} {world : World σ π}
    (h : f.HandsOver config asked)
    (hinvoke : asked.world.invoke (f.repairRequest config) = (result, world)) :
    ∃ t : Tally, t.calls = [(f.repairRequest config, result)] ∧
      ∀ s : Session, s.origin = asked.session.origin →
        f.Yields t (Flight.withSession { asked with world } s) := by
  obtain ⟨t, hyields, hcalls⟩ := h.yields
  have hanswered : asked.world.Yields { calls := [(f.repairRequest config, result)] } world := by
    have hrepair : (f.repairRequest config).isRepair = true := rfl
    have hmoves := (asked.world.invoke_moves (f.repairRequest config)).yields rfl
    rwa [tally_repair _ hrepair, hinvoke] at hmoves
  refine ⟨t ++ { calls := [(f.repairRequest config, result)] }, by simp [hcalls], fun s hs => ?_⟩
  exact (hyields.trans (.ofWorld hanswered)).then_quietly (Flight.withSession_yields _ hs)

/-- A round that hands over its task asks the model once. The code of the reply becomes the
component, and there is another round; without code, the component stays and the round is the last
one. -/
theorem handsOver_repairs (h : f.HandsOver config asked) :
    RoundRepairs config f (round config f) := by
  have hstatus : asked.session.status = .reflexion := congrArg Session.status h.core
  have hopen : asked.session.status.isTerminal = false := by rw [hstatus]; rfl
  have hplan : asked.session.plan = f.session.plan := (congrArg Session.plan h.core :)
  have hattempts : asked.session.attempts = f.session.attempts :=
    (congrArg Session.attempts h.core :)
  have hlimit : asked.session.maxAttempts = f.session.maxAttempts :=
    (congrArg Session.maxAttempts h.core :)
  have hcode : asked.session.code = f.session.code := (congrArg Session.code h.core :)
  have hrequest : f.repairTask.request config asked.session.plan = f.repairRequest config := by
    rw [hplan, Flight.repairRequest]
  rcases hinvoke : asked.world.invoke (f.repairRequest config) with ⟨result, world⟩
  obtain ⟨t, hcalls, hanswers⟩ := handsOver_answered h hinvoke
  cases hfruit : repairedCode? result with
  | none =>
    obtain ⟨outcome, hattempt, hfailure⟩ :=
      attemptRepair_fruitless config f.repairTask (s := asked.session) (w := asked.world)
        (by rw [hrequest, hinvoke, hfruit])
    rw [hrequest, hinvoke] at hattempt
    obtain ⟨f', hfollow, hyields', hcore⟩ := followUp_unsolved f.repairTask.code
      f.repairTask.errors f.repairTask.attempt
      (f := Flight.withSession { asked with world } asked.session) hfailure hstatus
    have hall := (hanswers asked.session rfl).then_quietly hyields'
    rw [h.round _ _ _ hattempt, hfollow]
    refine .fruitless h hall hcalls hfruit ⟨hall.origin, ?_⟩ ?_
    · exact (congrArg Session.plan hcore :).trans hplan
    · exact (congrArg Session.code hcore :).trans hcode
  | some code =>
    obtain ⟨outcome, hattempt, hsuccess, rfl⟩ :=
      attemptRepair_fruitful config f.repairTask (w := asked.world) hopen
        (by rw [hattempts, hlimit]; exact h.left) (by rw [hrequest, hinvoke, hfruit])
    rw [hrequest, hinvoke] at hattempt
    let counted : Session := { asked.session with attempts := asked.session.attempts + 1 }
    obtain ⟨f', hfollow, hyields', hcore, hprevious⟩ := followUp_solved f.repairTask.code
      f.repairTask.errors f.repairTask.attempt
      (f := Flight.withSession { asked with world } counted) hsuccess hopen
    have hall := (hanswers counted rfl).then_quietly hyields'
    rw [h.round _ _ _ hattempt, hfollow]
    refine .fruitful h hall hcalls hfruit ⟨hall.origin, ?_⟩ ?_ ?_ ?_
    · exact (congrArg Session.plan hcore :).trans hplan
    · exact (congrArg Session.code hcore :)
    · have hcounted : f'.session.attempts = asked.session.attempts + 1 :=
        (congrArg Session.attempts hcore :)
      rw [hcounted, hattempts]
    · rw [hprevious, ← h.previous]
      rfl

/-- How a round ends, by the repair that it asks for. -/
theorem round_repairs (config : Config)
    (hedge : f.session.status.canMoveTo .validating = true) :
    RoundRepairs config f (round config f) := by
  rcases round_hands_over config hedge with hnothing | ⟨asked, hasked⟩
  · exact hnothing
  · exact handsOver_repairs hasked

end FlightWork

end ArtifactPipeline
