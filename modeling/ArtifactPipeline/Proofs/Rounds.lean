import ArtifactPipeline.Proofs.Phases

/-!
# How a round of validation ends

A round brings a component before the rules. It breaks off if they cannot be read; it completes the
session if the component passes; otherwise it gives up, or asks the model once for a repair. Only a
repair that gave code counts as an attempt, and only then is there another round.
-/

namespace ArtifactPipeline

open Json

variable {σ π α β : Type}

/-- The component of a flight; before there is one, no text. -/
def Flight.code (f : Flight σ π) : String := f.session.code.getD ""

/-- The verdict that the component of a flight would get now. -/
def Flight.verdict (f : Flight σ π) : Verdict := f.world.assess f.session.tenant f.code

/-- A move to another status changes nothing that the verdict depends on. -/
theorem Flight.Yields.verdict {t : Tally} {f f' : Flight σ π} {status : Status}
    (h : f.Yields t f') (hcore : f'.session.core = { f.session.core with status }) :
    f'.verdict = f.verdict := by
  have hcode : f'.code = f.code := (congrArg (·.code.getD "") hcore :)
  have htenant : f'.session.tenant = f.session.tenant := (congrArg Session.tenant hcore :)
  rw [Flight.verdict, Flight.verdict, hcode, htenant, h.assess]

/-- The entry reports on the component of a flight. -/
def AuditEntry.Reports (entry : AuditEntry) (f : Flight σ π) : Prop :=
  entry.session = some f.session.id ∧ entry.isValid = f.verdict.isValid

/-- The reply of the model holds no code, or there is no reply. -/
def Fruitless (result : Except Failure ModelResponse) : Prop :=
  ∀ response, result = .ok response → Component.extractCode response.content.toList = []

/-- A session with attempts left may count one. -/
theorem Session.recordAttempt?_eq {s : Session} (hopen : s.status.isTerminal = false)
    (hleft : s.attempts < s.maxAttempts) :
    s.recordAttempt? = some { s with attempts := s.attempts + 1 } := by
  have hnot : ¬ s.attempts ≥ s.maxAttempts := by omega
  simp [recordAttempt?, hopen, hnot]

/-- How asking the model for a repair ends. -/
inductive RepairAnswers (s : Session) (w : World σ π) :
    (RepairOutcome × Session) × World σ π → Prop
  | unsolved {request : ModelRequest} {result : Except Failure ModelResponse}
    {outcome : RepairOutcome} {w' : World σ π} :
    w.Yields { calls := [(request, result)] } w' → request.isRepair = true → Fruitless result →
      outcome.success = false → RepairAnswers s w ((outcome, s), w')
  | solved {request : ModelRequest} {result : Except Failure ModelResponse}
    {outcome : RepairOutcome} {w' : World σ π} :
    w.Yields { calls := [(request, result)] } w' → request.isRepair = true →
      outcome.success = true →
      RepairAnswers s w ((outcome, { s with attempts := s.attempts + 1 }), w')

/-- The request for a repair can be told from others by its messages. -/
theorem RepairTask.request_isRepair (config : Config) (t : RepairTask) (plan : Option Plan) :
    (t.request config plan).isRepair = true := rfl

/-- Asking for a repair asks the model once. An attempt counts if the reply holds code. -/
theorem attemptRepair_answers [ModelService σ] (config : Config) (t : RepairTask) {s : Session}
    (w : World σ π) (hopen : s.status.isTerminal = false) (hleft : s.attempts < s.maxAttempts) :
    RepairAnswers s w (attemptRepair config t s w) := by
  have hrepair := t.request_isRepair config s.plan
  have hyields := (w.invoke_moves (t.request config s.plan)).yields rfl
  rw [tally_repair _ hrepair] at hyields
  unfold attemptRepair
  rcases hresult : w.invoke (t.request config s.plan) with ⟨e | response, w'⟩
  · rw [hresult] at hyields
    exact .unsolved hyields hrepair (by intro response h; cases h) rfl
  · rw [hresult] at hyields
    by_cases hcode : (Component.extractCode response.content.toList).isEmpty = true
    · simp only [settleRepair, if_pos hcode]
      refine .unsolved hyields hrepair ?_ rfl
      intro other hother
      cases hother
      exact List.isEmpty_iff.mp hcode
    · simp only [settleRepair, if_neg hcode, Session.recordAttempt?_eq hopen hleft]
      exact .solved hyields hrepair rfl

namespace FlightWork

/-- Work that changes the flight and gives a value goes on with both. -/
theorem modifyGet_bind {change : Flight σ π → α × Flight σ π} {f : Flight σ π} (a : α)
    (f' : Flight σ π) (g : α → FlightWork σ π β) (h : change f = (a, f')) :
    (modifyGet change >>= g) f = g a f' := by
  refine bind_ok g ?_
  show (match change f with | (a, f') => EStateM.Result.ok a f') = .ok a f'
  rw [h]

/-- The second half of a repair: what follows from its outcome. -/
def followUp (code : String) (errors : List String) (attempt : Nat) (outcome : RepairOutcome) :
    FlightWork σ π Round := do
  step (·.recordUsage outcome.usage outcome.cost)
  if outcome.success then
    modify fun f => { f with run := { f.run with previous := f.run.previous ++ [⟨code, errors⟩] } }
    step (·.setCode outcome.code)
    modify (Flight.log .info "Repair applied" (.obj [
      ("attempt", .nat attempt),
      ("explanation", .str outcome.explanation)]))
    return .again
  else
    reject "Repair failed" (.obj [
      ("attempt", .nat attempt),
      ("reason", .str outcome.explanation)])
    return .finished

/-- A repair in two halves: asking the model, and what follows from the outcome. -/
theorem repair_eq [ModelService σ] (config : Config) (code : String) (errors : List String) :
    repair config code errors = (do
      let session := (← get).session
      let attempt := session.attempts + 1
      let maxAttempts := session.maxAttempts
      advance .reflexion "Repairing component" (.obj [
        ("attempt", .nat attempt),
        ("max_attempts", .nat maxAttempts)])
      let previous := (← get).run.previous
      let outcome ← modifyGet fun f =>
        let ((outcome, session), world) := attemptRepair config
          { code, errors, attempt, maxAttempts, previous } f.session f.world
        (outcome, { f with world }.withSession session)
      followUp code errors attempt outcome : FlightWork σ π Round) := rfl

/-- A repair without success ends the session as rejected. -/
theorem followUp_unsolved (code : String) (errors : List String) (attempt : Nat)
    {outcome : RepairOutcome} {f : Flight σ π} (hfailure : outcome.success = false)
    (hstatus : f.session.status = .reflexion) :
    ∃ f', followUp code errors attempt outcome f = .ok .finished f' ∧ f.Yields {} f' ∧
      f'.session.core = { f.session.core with status := .rejected } := by
  have hopen : f.session.status.isTerminal = false := by rw [hstatus]; rfl
  let charged : Flight σ π := f.withSession { f.session with
    usage := f.session.usage.add outcome.usage, cost := f.session.cost + outcome.cost }
  have hcharged : charged.session.status = .reflexion := hstatus
  have hcharge : f.Yields {} charged := Flight.withSession_yields f rfl
  obtain ⟨f', hreject, hyields, hcore⟩ := reject_spec (f := charged) "Repair failed"
    (.obj [("attempt", .nat attempt), ("reason", .str outcome.explanation)])
    (by rw [hcharged]; rfl) (by decide)
  refine ⟨f', ?_, hcharge.quietly hyields, hcore⟩
  rw [followUp, step_bind _ (Session.modify_eq _ hopen), hfailure, if_neg (by decide),
    bind_ok _ hreject]
  rfl

/-- A repair with success puts the new code in place. -/
theorem followUp_solved (code : String) (errors : List String) (attempt : Nat)
    {outcome : RepairOutcome} {f : Flight σ π} (hsuccess : outcome.success = true)
    (hopen : f.session.status.isTerminal = false) :
    ∃ f', followUp code errors attempt outcome f = .ok .again f' ∧ f.Yields {} f' ∧
      f'.session.core = { f.session.core with code := some outcome.code } ∧
      f'.run.previous = f.run.previous ++ [⟨code, errors⟩] := by
  rw [followUp, step_bind _ (Session.modify_eq _ hopen), hsuccess, if_pos rfl, modify_bind,
    step_bind _ (Session.modify_eq _ (by exact hopen)), modify_bind]
  refine ⟨_, rfl, ?_, rfl, rfl⟩
  refine .then_quietly ?_ (Flight.log_quiet _ _ rfl)
  refine .then_quietly ?_ (Flight.withSession_yields _ rfl)
  exact .then_quietly (Flight.withSession_yields f rfl) (.ofRun rfl rfl rfl)

/-- How a repair ends. -/
inductive RepairEnds (f : Flight σ π) : EStateM.Result Failure (Flight σ π) Round → Prop
  | unsolved {request : ModelRequest} {result : Except Failure ModelResponse} {f' : Flight σ π} :
    f.Yields { calls := [(request, result)], numbers := [f.session.attempts + 1] } f' →
    request.isRepair = true → Fruitless result →
    f'.session.core = { f.session.core with status := .rejected } →
    RepairEnds f (.ok .finished f')
  | solved {request : ModelRequest} {result : Except Failure ModelResponse} {f' : Flight σ π}
    (code : String) :
    f.Yields { calls := [(request, result)], numbers := [f.session.attempts + 1] } f' →
    request.isRepair = true →
    f'.session.core = { f.session.core with
      status := .reflexion, attempts := f.session.attempts + 1, code := some code } →
    RepairEnds f (.ok .again f')

/-- A repair after a validation never fails. It is announced under the number of the attempt that it
would be, and it asks the model once. -/
theorem repair_ends [ModelService σ] (config : Config) (code : String) (errors : List String)
    {f : Flight σ π} (hstatus : f.session.status = .validating)
    (hleft : f.session.attempts < f.session.maxAttempts) :
    RepairEnds f (repair config code errors f) := by
  obtain ⟨f₁, hadvance, hyields₁, hcore₁⟩ := advance_spec (f := f) .reflexion
    "Repairing component" (.obj [("attempt", .nat (f.session.attempts + 1)),
      ("max_attempts", .nat f.session.maxAttempts)]) (by rw [hstatus]; rfl)
  have hstatus₁ : f₁.session.status = .reflexion := congrArg Session.status hcore₁
  have hopen₁ : f₁.session.status.isTerminal = false := by rw [hstatus₁]; rfl
  have hattempts : f₁.session.attempts = f.session.attempts := (congrArg Session.attempts hcore₁ :)
  have hmax : f₁.session.maxAttempts = f.session.maxAttempts :=
    (congrArg Session.maxAttempts hcore₁ :)
  let task : RepairTask := {
    code
    errors
    attempt := f.session.attempts + 1
    maxAttempts := f.session.maxAttempts
    previous := f₁.run.previous }
  have hanswers := attemptRepair_answers config task f₁.world hopen₁ (by omega)
  rw [repair_eq, get_bind, bind_ok _ hadvance, get_bind]
  rcases hasked : attemptRepair config task f₁.session f₁.world with ⟨⟨outcome, s⟩, w⟩
  rw [hasked] at hanswers
  let asked : Flight σ π := { f₁ with world := w }
  rw [modifyGet_bind outcome (asked.withSession s) _
    (by simp only [task] at hasked; simp only [hasked, asked])]
  cases hanswers with
  | unsolved hasks hrepair hfruitless hfailure =>
    obtain ⟨f₂, hfollow, hyields₂, hcore₂⟩ := followUp_unsolved code errors
      (f.session.attempts + 1) (f := asked.withSession f₁.session) hfailure hstatus₁
    rw [hfollow]
    have hasked' : f₁.Yields _ (asked.withSession f₁.session) :=
      .then_quietly (.ofWorld hasks) (Flight.withSession_yields _ rfl)
    refine .unsolved ((hyields₁.trans hasked').then_quietly hyields₂) hrepair hfruitless ?_
    exact hcore₂.trans (congrArg (fun s : Session => { s with status := .rejected }) hcore₁)
  | @solved request result outcome w hasks hrepair hsuccess =>
    let counted : Session := { f₁.session with attempts := f₁.session.attempts + 1 }
    obtain ⟨f₂, hfollow, hyields₂, hcore₂, -⟩ := followUp_solved code errors
      (f.session.attempts + 1) (f := asked.withSession counted) hsuccess hopen₁
    rw [hfollow]
    have hasked' : f₁.Yields _ (asked.withSession counted) :=
      .then_quietly (.ofWorld hasks) (Flight.withSession_yields _ rfl)
    refine .solved outcome.code ((hyields₁.trans hasked').then_quietly hyields₂) hrepair ?_
    exact hcore₂.trans (congrArg (fun s : Session =>
      { s with attempts := s.attempts + 1, code := some outcome.code }) hcore₁)

/-- How a round of validation ends. -/
inductive RoundEnds (f : Flight σ π) : EStateM.Result Failure (Flight σ π) Round → Prop
  /-- The rules or the allowed packages could not be read. -/
  | broken {e : Failure} {f' : Flight σ π} (before : List Gate) {kind : GateKind} :
    f.Yields { gates := before ++ [⟨kind, some e⟩] } f' → (∀ g ∈ before, g.failure = none) →
    Gate.verdicts (before ++ [⟨kind, some e⟩]) = 0 →
    f'.session.core = { f.session.core with status := .validating } →
    RoundEnds f (.error e f')
  | completed {f' : Flight σ π} {entry : AuditEntry} :
    f.Yields { gates := Gate.validated 1, audits := [entry], published := [f.code] } f' →
    entry.Reports f → f.verdict.isValid = true →
    f'.session.core = { f.session.core with
      status := .completed, verdict := some f.verdict, artifactId := f'.session.artifactId } →
    RoundEnds f (.ok .finished f')
  /-- No attempt is left. -/
  | exhausted {f' : Flight σ π} {entry : AuditEntry} {record : ReviewRecord} :
    f.Yields { gates := Gate.validated 1, audits := [entry], reviews := [record] } f' →
    entry.Reports f → f.verdict.isValid = false → f.session.maxAttempts ≤ f.session.attempts →
    record.Describes f'.session f.verdict →
    f'.session.core = { f.session.core with status := .rejected, verdict := some f.verdict } →
    RoundEnds f (.ok .finished f')
  /-- The model gave no code for a repair. -/
  | unrepaired {f' : Flight σ π} {entry : AuditEntry} {request : ModelRequest}
    {result : Except Failure ModelResponse} :
    f.Yields {
      gates := Gate.validated 1
      calls := [(request, result)]
      audits := [entry]
      numbers := [f.session.attempts + 1] } f' →
    entry.Reports f → f.verdict.isValid = false → f.session.attempts < f.session.maxAttempts →
    request.isRepair = true → Fruitless result →
    f'.session.core = { f.session.core with status := .rejected, verdict := some f.verdict } →
    RoundEnds f (.ok .finished f')
  | repaired {f' : Flight σ π} {entry : AuditEntry} {request : ModelRequest}
    {result : Except Failure ModelResponse} (code : String) :
    f.Yields {
      gates := Gate.validated 1
      calls := [(request, result)]
      audits := [entry]
      numbers := [f.session.attempts + 1] } f' →
    entry.Reports f → f.verdict.isValid = false → f.session.attempts < f.session.maxAttempts →
    request.isRepair = true →
    f'.session.core = { f.session.core with
      status := .reflexion, verdict := some f.verdict, attempts := f.session.attempts + 1
      code := some code } →
    RoundEnds f (.ok .again f')

/-- The first half of a round: the component is judged, or the round breaks off. -/
inductive JudgementEnds (f : Flight σ π) : EStateM.Result Failure (Flight σ π) Verdict → Prop
  | broken {e : Failure} {f' : Flight σ π} (before : List Gate) {kind : GateKind} :
    f.Yields { gates := before ++ [⟨kind, some e⟩] } f' → (∀ g ∈ before, g.failure = none) →
    Gate.verdicts (before ++ [⟨kind, some e⟩]) = 0 → f'.run = f.run →
    JudgementEnds f (.error e f')
  | judged {f' : Flight σ π} {entry : AuditEntry} :
    f.Yields { gates := Gate.validated 1, audits := [entry] } f' → entry.Reports f →
    f'.run = f.run → JudgementEnds f (.ok f.verdict f')

/-- The validation of the component of a flight breaks off at a reading, or comes to the verdict
that its world has for it. -/
theorem judgement_ends (f : Flight σ π) :
    JudgementEnds f (onWorld (validate f.code (some f.session.id) f.session.tenant) f) := by
  have hvalidate := validate_ends f.code (some f.session.id) f.session.tenant f.world
  cases hresult : validate f.code (some f.session.id) f.session.tenant f.world with
  | error e w =>
    rw [hresult] at hvalidate
    rw [onWorld_error hresult]
    cases hvalidate with
    | unruled hyields =>
      exact .broken [] (.ofWorld hyields) (by simp) (Gate.verdicts_broken _ _ _) rfl
    | unlisted hyields =>
      exact .broken [⟨.rules, none⟩] (.ofWorld hyields) (by simp) rfl rfl
  | ok verdict w =>
    rw [hresult] at hvalidate
    rw [onWorld_ok hresult]
    cases hvalidate with
    | judged hyields hsession hvalid => exact .judged (.ofWorld hyields) ⟨hsession, hvalid⟩ rfl

/-- The second half of a round: what follows from the verdict on some code. -/
def conclude [ModelService σ] [Publisher π] (config : Config) (code : String) (verdict : Verdict) :
    FlightWork σ π Round := do
  step (·.setVerdict verdict)
  if verdict.isValid then
    modify (Flight.log .info "Validation passed" (verdictData verdict))
    complete code
    return .finished
  else
    modify (Flight.log .warn "Validation failed" (verdictData verdict))
    let session := (← get).session
    if isExhausted session.attempts session.maxAttempts then
      giveUp verdict
      return .finished
    else repair config code verdict.errorMessages

/-- A round in two halves: the verdict on the component, and what follows from it. -/
theorem round_eq [ModelService σ] [Publisher π] (config : Config) :
    round config = (do
      let attempts := (← get).session.attempts
      advance .validating "Validating component" (.obj [("attempt", .nat attempts)])
      let f ← get
      let verdict ← onWorld (validate f.code (some f.session.id) f.session.tenant)
      conclude config f.code verdict : FlightWork σ π Round) := rfl

/-- The component of a flight was judged, and its session holds the verdict. -/
structure AfterVerdict (f : Flight σ π) (entry : AuditEntry) (judged : Flight σ π) : Prop where
  yields : f.Yields { gates := Gate.validated 1, audits := [entry] } judged
  reports : entry.Reports f
  core : judged.session.core =
    { f.session.core with status := .validating, verdict := some f.verdict }

namespace AfterVerdict

variable {f judged : Flight σ π} {entry : AuditEntry}

/-- A component that was judged is in validation. -/
theorem status (h : AfterVerdict f entry judged) : judged.session.status = .validating :=
  congrArg Session.status h.core

/-- A verdict uses up no attempt. -/
theorem attempts (h : AfterVerdict f entry judged) :
    judged.session.attempts = f.session.attempts := (congrArg Session.attempts h.core :)

/-- A verdict does not change the limit for the attempts. -/
theorem maxAttempts (h : AfterVerdict f entry judged) :
    judged.session.maxAttempts = f.session.maxAttempts := (congrArg Session.maxAttempts h.core :)

/-- The attempts are used up after the verdict if they were before. -/
theorem isExhausted_eq (h : AfterVerdict f entry judged) :
    isExhausted judged.session.attempts judged.session.maxAttempts =
      decide (f.session.maxAttempts ≤ f.session.attempts) := by
  rw [h.attempts, h.maxAttempts]
  rfl

/-- What the log says about the verdict changes nothing. -/
theorem log (h : AfterVerdict f entry judged) (level : LogLevel) (message : String) (data : Value)
    (hmessage : message ≠ "Repairing component") :
    AfterVerdict f entry (judged.log level message data) where
  yields := h.yields.then_quietly (Flight.log_quiet _ _ (repairNumber?_of_ne _ hmessage))
  reports := h.reports
  core := h.core

/-- A component that passes ends the round with its session completed. -/
theorem complete_ends [Publisher π] (h : AfterVerdict f entry judged)
    (hvalid : f.verdict.isValid = true) :
    ∃ f', complete f.code judged = .ok () f' ∧ RoundEnds f (.ok .finished f') := by
  obtain ⟨f', hcomplete, hyields, hcore⟩ := complete_spec f.code h.status
  refine ⟨f', hcomplete, .completed (h.yields.trans hyields) h.reports hvalid ?_⟩
  rw [hcore, h.core]

/-- A component that does not pass when no attempt is left ends the round with its session
rejected. -/
theorem giveUp_ends (h : AfterVerdict f entry judged) (hinvalid : f.verdict.isValid = false)
    (hleft : f.session.maxAttempts ≤ f.session.attempts) :
    ∃ f', giveUp f.verdict judged = .ok () f' ∧ RoundEnds f (.ok .finished f') := by
  obtain ⟨f', record, hgiveUp, hyields, hrecord, hcore⟩ := giveUp_spec f.verdict h.status
  refine ⟨f', hgiveUp, .exhausted (h.yields.trans hyields) h.reports hinvalid hleft hrecord ?_⟩
  rw [hcore, h.core]

/-- A component that does not pass while an attempt is left is repaired, or the repair fails. -/
theorem repair_ends [ModelService σ] (config : Config) (errors : List String)
    (h : AfterVerdict f entry judged) (hinvalid : f.verdict.isValid = false)
    (hleft : f.session.attempts < f.session.maxAttempts) :
    RoundEnds f (repair config f.code errors judged) := by
  have hrepair := FlightWork.repair_ends config f.code errors h.status
    (by rwa [h.attempts, h.maxAttempts])
  generalize repair config f.code errors judged = result at hrepair
  cases hrepair with
  | unsolved hyields hrepair hfruitless hcore =>
    rw [h.attempts] at hyields
    refine .unrepaired (h.yields.trans hyields) h.reports hinvalid hleft hrepair hfruitless ?_
    rw [hcore, h.core]
  | solved code hyields hrepair hcore =>
    rw [h.attempts] at hyields hcore
    refine .repaired code (h.yields.trans hyields) h.reports hinvalid hleft hrepair ?_
    rw [hcore, h.core]

end AfterVerdict

/-- What follows from the verdict on the component ends the round in one of its ways. -/
theorem conclude_ends [ModelService σ] [Publisher π] (config : Config) {f f₁ : Flight σ π}
    {entry : AuditEntry} (hyields : f.Yields { gates := Gate.validated 1, audits := [entry] } f₁)
    (hreports : entry.Reports f)
    (hcore : f₁.session.core = { f.session.core with status := .validating }) :
    RoundEnds f (conclude config f.code f.verdict f₁) := by
  have hstatus : f₁.session.status = .validating := congrArg Session.status hcore
  have hopen : f₁.session.status.isTerminal = false := by rw [hstatus]; rfl
  let judged : Flight σ π := f₁.withSession { f₁.session with verdict := some f.verdict }
  have hjudged : AfterVerdict f entry judged := {
    yields := hyields.then_quietly (Flight.withSession_yields _ rfl)
    reports := hreports
    core := congrArg (fun s : Session => { s with verdict := some f.verdict }) hcore }
  rw [conclude, step_bind _ (Session.modify_eq _ hopen)]
  cases hvalid : f.verdict.isValid with
  | true =>
    have hpassed := hjudged.log .info "Validation passed" (verdictData f.verdict) (by decide)
    obtain ⟨f', hcomplete, hends⟩ := hpassed.complete_ends hvalid
    rw [if_pos rfl, modify_bind, bind_ok _ hcomplete]
    exact hends
  | false =>
    have hrefused := hjudged.log .warn "Validation failed" (verdictData f.verdict) (by decide)
    rw [if_neg (by decide), modify_bind, get_bind]
    by_cases hleft : f.session.maxAttempts ≤ f.session.attempts
    · obtain ⟨f', hgiveUp, hends⟩ := hrefused.giveUp_ends hvalid hleft
      rw [if_pos (hrefused.isExhausted_eq.trans (decide_eq_true hleft)), bind_ok _ hgiveUp]
      exact hends
    · have hends := hrefused.repair_ends config f.verdict.errorMessages hvalid (by omega)
      rw [if_neg (by rw [hrefused.isExhausted_eq.trans (decide_eq_false hleft)]; decide)]
      exact hends

/-- A round begins from any status before a validation, and ends in one of these ways. -/
theorem round_ends [ModelService σ] [Publisher π] (config : Config) {f : Flight σ π}
    (hedge : f.session.status.canMoveTo .validating = true) : RoundEnds f (round config f) := by
  obtain ⟨f₁, hadvance, hyields₁, hcore₁⟩ := advance_quiet (f := f) .validating
    "Validating component" (.obj [("attempt", .nat f.session.attempts)]) hedge rfl
  have hcode : f₁.code = f.code := (congrArg (·.code.getD "") hcore₁ :)
  have hid : f₁.session.id = f.session.id := (congrArg Session.id hcore₁ :)
  have hverdict : f₁.verdict = f.verdict := hyields₁.verdict hcore₁
  have hjudgement := judgement_ends f₁
  rw [round_eq, get_bind, bind_ok _ hadvance, get_bind]
  cases hresult : onWorld (validate f₁.code (some f₁.session.id) f₁.session.tenant) f₁ with
  | error e f₂ =>
    rw [hresult] at hjudgement
    rw [bind_error _ hresult]
    cases hjudgement with
    | broken before hyields₂ hbefore hverdicts hrun =>
      have hsession : f₂.session = f₁.session := congrArg SessionRun.session hrun
      exact .broken before (hyields₁.quietly hyields₂) hbefore hverdicts (by rw [hsession, hcore₁])
  | ok verdict f₂ =>
    rw [hresult] at hjudgement
    rw [bind_ok _ hresult]
    cases hjudgement with
    | judged hyields₂ hreports hrun =>
      have hsession : f₂.session = f₁.session := congrArg SessionRun.session hrun
      rw [hcode, hverdict]
      refine conclude_ends config (hyields₁.quietly hyields₂) ?_ (by rw [hsession, hcore₁])
      rwa [AuditEntry.Reports, hid, hverdict] at hreports

end FlightWork

end ArtifactPipeline
