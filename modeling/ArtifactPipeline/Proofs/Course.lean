import ArtifactPipeline.Proofs.Rounds

/-!
# The course of a session

A session is opened, its component is repaired in a number of rounds, and a last round ends it. What
its effects amount to is laid out in that order: the opening, one block for each repaired round, and
the last round. The layout is an invariant of the loop of rounds, so it holds of every session that
has ended, whichever way it was worked on.
-/

namespace ArtifactPipeline

variable {σ π : Type}

/-- The tally of a number of rounds, each of which ended with a repair. -/
structure Tally.Repairs (id : SessionId) (count : Nat) (t : Tally) : Prop where
  gates : t.gates = Gate.validated count
  calls : t.calls.length = count
  repairs : ∀ call ∈ t.calls, call.1.isRepair = true
  audits : t.audits.length = count
  entries : ∀ entry ∈ t.audits, entry.session = some id ∧ entry.isValid = false
  reviews : t.reviews = []
  published : t.published = []
  numbers : t.numbers = List.range' 1 count

/-- Before the first round there are no repairs. -/
theorem Tally.Repairs.empty (id : SessionId) : ({} : Tally).Repairs id 0 :=
  ⟨rfl, rfl, by simp, rfl, by simp, rfl, rfl, rfl⟩

/-- A repaired round is the next one. -/
theorem Tally.Repairs.snoc {id : SessionId} {count : Nat} {t : Tally} {entry : AuditEntry}
    {request : ModelRequest} (result : Except Failure ModelResponse) (h : t.Repairs id count)
    (hentry : entry.session = some id ∧ entry.isValid = false)
    (hrequest : request.isRepair = true) :
    (t ++ {
      gates := Gate.validated 1
      calls := [(request, result)]
      audits := [entry]
      numbers := [count + 1] } : Tally).Repairs id (count + 1) where
  gates := by rw [Tally.gates_append, h.gates, Gate.validated_add]
  calls := by simp [h.calls]
  repairs call hcall := by
    rcases List.mem_append.mp hcall with hcall | hcall
    · exact h.repairs call hcall
    · rw [List.mem_singleton.mp hcall]
      exact hrequest
  audits := by simp [h.audits]
  entries other hother := by
    rcases List.mem_append.mp hother with hother | hother
    · exact h.entries other hother
    · rw [List.mem_singleton.mp hother]
      exact hentry
  reviews := by simp [h.reviews]
  published := by simp [h.published]
  numbers := by
    rw [Tally.numbers_append, h.numbers, List.range'_concat]
    simp [Nat.add_comm]

/-- The session holds some code and the verdict on it, and an audit entry reports that verdict. -/
structure Session.Judged (s : Session) (text : String) (judgement : Verdict) (entry : AuditEntry) :
    Prop where
  error : s.error = none
  code : s.code = some text
  verdict : s.verdict = some judgement
  session : entry.session = some s.id
  isValid : entry.isValid = judgement.isValid

/-- How the last round of a session went, by the session after it and by what its effects amount to.
A session that broke down before its first round counts as broken in its first one. -/
inductive LastRound (judge : String → Verdict) (limit : Nat) (s : Session) : Tally → Prop
  | broken {before : List Gate} {kind : GateKind} {e : Failure} :
    (∀ g ∈ before, g.failure = none) → Gate.verdicts (before ++ [⟨kind, some e⟩]) = 0 →
    s.status = .failed → s.error = some e.message → s.artifactId = none →
    LastRound judge limit s { gates := before ++ [⟨kind, some e⟩] }
  | completed {code : String} {entry : AuditEntry} :
    s.status = .completed → s.Judged code (judge code) entry → (judge code).isValid = true →
    LastRound judge limit s {
      gates := Gate.validated 1
      audits := [entry]
      published := [code] }
  | exhausted {code : String} {entry : AuditEntry} {record : ReviewRecord} :
    s.status = .rejected → s.Judged code (judge code) entry → (judge code).isValid = false →
    s.attempts = limit → record.Describes s (judge code) →
    LastRound judge limit s {
      gates := Gate.validated 1
      audits := [entry]
      reviews := [record] }
  | unrepaired {code : String} {entry : AuditEntry} {request : ModelRequest}
    {result : Except Failure ModelResponse} :
    s.status = .rejected → s.Judged code (judge code) entry → (judge code).isValid = false →
    s.attempts < limit → request.isRepair = true → Fruitless result →
    LastRound judge limit s {
      gates := Gate.validated 1
      calls := [(request, result)]
      audits := [entry]
      numbers := [s.attempts + 1] }

/-- What the effects of a session amount to from its opening to its end. Each attempt of the session
is a repaired round. -/
inductive Course (judge : String → Verdict) (limit : Nat) (s : Session) : Tally → Prop
  | intro {opening repairs last : Tally} :
    opening.Opening 2 → repairs.Repairs s.id s.attempts → s.attempts ≤ limit →
    LastRound judge limit s last → Course judge limit s (opening ++ repairs ++ last)

/-- A session that has run its course has one of the statuses of an end. -/
theorem Course.status {judge : String → Verdict} {limit : Nat} {s : Session} {t : Tally}
    (h : Course judge limit s t) :
    s.status = .completed ∨ s.status = .rejected ∨ s.status = .failed := by
  obtain ⟨-, -, -, hlast⟩ := h
  cases hlast with
  | broken _ _ hstatus => exact Or.inr (Or.inr hstatus)
  | completed hstatus => exact Or.inl hstatus
  | exhausted hstatus | unrepaired hstatus => exact Or.inr (Or.inl hstatus)

/-- The work takes a world to another one, and its effects amount to a tally. -/
def World.Reaches (t : Tally) (w w' : World σ π) : Prop :=
  ∃ effects, w.Moves effects w' ∧ tally effects = t

/-- What two pieces of work reach one after the other is the sum of their tallies. -/
theorem World.Reaches.trans {s t : Tally} {w₁ w₂ w₃ : World σ π} (h₁ : w₁.Reaches s w₂)
    (h₂ : w₂.Reaches t w₃) : w₁.Reaches (s ++ t) w₃ := by
  obtain ⟨xs, hmoves₁, rfl⟩ := h₁
  obtain ⟨ys, hmoves₂, rfl⟩ := h₂
  exact ⟨xs ++ ys, hmoves₁.trans hmoves₂, tally_append xs ys⟩

/-- The verdict on any component is the same wherever the work leads. -/
theorem World.Reaches.assess {t : Tally} {w w' : World σ π} (h : w.Reaches t w') :
    w'.assess = w.assess := by
  obtain ⟨effects, hmoves, -⟩ := h
  exact hmoves.assess

/-- The work on a flight takes its world along. -/
theorem Flight.Yields.reaches {t : Tally} {f f' : Flight σ π} (h : f.Yields t f') :
    f.world.Reaches t f'.world := by
  obtain ⟨effects, hmoves, htally⟩ := h
  exact ⟨effects, hmoves.world, htally⟩

/-- What is fixed for the session of a request. -/
def World.origin (w : World σ π) (config : Config) (request : ComponentRequest) : Origin where
  id := w.freshId.1
  tenant := request.tenant
  user := request.user
  prompt := request.prompt
  mood := request.mood
  maxAttempts := config.pipeline.maxAttempts

section Run

variable (config : Config) (request : ComponentRequest) (w : World σ π)

/-- A session of a request that has not ended: nothing was published for it, and it has no error. -/
structure Session.InProgress (s : Session) (attempts : Nat) : Prop where
  origin : s.origin = w.origin config request
  attempts : s.attempts = attempts
  artifactId : s.artifactId = none
  error : s.error = none
  status : s.status.isTerminal = false

/-- A session that has been planned. -/
structure Planned (s : Session) (w' : World σ π) : Prop where
  progress : s.InProgress config request w 0
  status : s.status = .planning
  plan : ∃ plan, s.plan = some plan
  reaches : ∃ opening, w.Reaches opening w' ∧ opening.Opening 1

/-- The invariant of the loop: a session after a number of repaired rounds, before the next one. -/
structure Underway (rounds : Nat) (s : Session) (w' : World σ π) : Prop where
  progress : s.InProgress config request w rounds
  edge : s.status.canMoveTo .validating = true
  code : ∃ code, s.code = some code
  bound : rounds ≤ config.pipeline.maxAttempts
  reaches : ∃ opening repairs, w.Reaches (opening ++ repairs) w' ∧ opening.Opening 2 ∧
    repairs.Repairs s.id rounds

/-- A session whose work broke off with a failure, before it is ended as failed. -/
inductive BrokenOff (e : Failure) (s : Session) (w' : World σ π) : Prop
  | intro {rounds : Nat} {opening repairs : Tally} {before : List Gate} {kind : GateKind} :
    s.InProgress config request w rounds → rounds ≤ config.pipeline.maxAttempts →
    w.Reaches (opening ++ repairs ++ { gates := before ++ [⟨kind, some e⟩] }) w' →
    opening.Opening 2 → repairs.Repairs s.id rounds → (∀ g ∈ before, g.failure = none) →
    Gate.verdicts (before ++ [⟨kind, some e⟩]) = 0 → BrokenOff e s w'

/-- A session that has ended. -/
structure Ended (s : Session) (w' : World σ π) : Prop where
  origin : s.origin = w.origin config request
  reaches : ∃ t, w.Reaches t w' ∧ Course (w.assess s.tenant) config.pipeline.maxAttempts s t

end Run

section Steps

variable {config : Config} {request : ComponentRequest} {w : World σ π}

/-- A session that has ended is in a status in which it has. -/
theorem Ended.isTerminal {s : Session} {w' : World σ π} (h : Ended config request w s w') :
    s.status.isTerminal = true := by
  obtain ⟨t, -, hcourse⟩ := h.reaches
  rcases hcourse.status with hstatus | hstatus | hstatus <;> rw [hstatus] <;> rfl

/-- Work that neither names an artifact nor ends the session leaves it in progress. -/
theorem Session.InProgress.moved {s s' : Session} {attempts number : Nat} {status : Status}
    {plan : Option Plan} {code : Option String} {verdict : Option Verdict}
    (h : s.InProgress config request w attempts)
    (hcore : s'.core = { s.core with status, plan, code, verdict, attempts := number })
    (hopen : status.isTerminal = false) : s'.InProgress config request w number where
  origin := by
    have horigin : s'.origin = s.origin := (congrArg Session.origin hcore :)
    rw [horigin, h.origin]
  attempts := (congrArg Session.attempts hcore :)
  artifactId := (congrArg Session.artifactId hcore :).trans h.artifactId
  error := (congrArg Session.error hcore :).trans h.error
  status := by
    have hstatus : s'.status = status := (congrArg Session.status hcore :)
    rwa [hstatus]

/-- The same for work that counts no attempt. -/
theorem Session.InProgress.kept {s s' : Session} {attempts : Nat} {status : Status}
    {plan : Option Plan} {code : Option String} {verdict : Option Verdict}
    (h : s.InProgress config request w attempts)
    (hcore : s'.core = { s.core with status, plan, code, verdict })
    (hopen : status.isTerminal = false) : s'.InProgress config request w attempts := by
  obtain rfl := h.attempts
  exact h.moved hcore hopen

/-- The limit for the attempts is the one of the settings. -/
theorem Session.InProgress.limit {s : Session} {attempts : Nat}
    (h : s.InProgress config request w attempts) : s.maxAttempts = config.pipeline.maxAttempts :=
  congrArg Origin.maxAttempts h.origin

/-- A failure in the first half of the opening breaks off the work. -/
theorem BrokenOff.of_opening {e : Failure} {s : Session} {w' : World σ π} {opening : Tally}
    (kind : GateKind) (hprogress : s.InProgress config request w 0) (hopening : opening.Opening 2)
    (hreaches : w.Reaches (opening ++ { gates := [⟨kind, some e⟩] }) w') :
    BrokenOff config request w e s w' := by
  have hreaches' : w.Reaches (opening ++ {} ++ { gates := [] ++ [⟨kind, some e⟩] }) w' := by
    rwa [Tally.append_empty]
  exact .intro hprogress (Nat.zero_le _) hreaches' hopening (.empty s.id) (by simp)
    (Gate.verdicts_broken kind e [])

/-- A session is in progress as soon as it has been opened. -/
theorem start_progress (config : Config) (request : ComponentRequest) (w : World σ π) :
    (Flight.start config request w).session.InProgress config request w 0 :=
  ⟨rfl, rfl, rfl, rfl, rfl⟩

/-- Creating a session does nothing that a tally has. -/
theorem start_reaches (config : Config) (request : ComponentRequest) (w : World σ π) :
    w.Reaches {} (Flight.start config request w).world := by
  let timed := w.freshId.2.now.2
  let session :=
    Session.new w.freshId.1 request config.pipeline.maxAttempts w.freshId.2.now.1
  obtain ⟨failure, -, hcreate⟩ := timed.write_moves (.createSession session) rfl
  have hcreated : w.Reaches {} (timed.write (.createSession session)).2 :=
    ⟨_, (w.freshId_moves.trans w.freshId.2.now_moves).trans hcreate, rfl⟩
  let opened : Flight σ π :=
    { run := { session }, world := (timed.write (.createSession session)).2 }
  have hlogged : opened.Yields {} (Flight.start config request w) := Flight.log_quiet _ _ rfl
  exact hcreated.trans hlogged.reaches

/-- Planning a new session makes it a planned one, or breaks off. -/
theorem plan_outcome [ModelService σ] (config : Config) (request : ComponentRequest)
    (w : World σ π) :
    (∃ f, FlightWork.plan config (Flight.start config request w) = .ok () f ∧
      Planned config request w f.session f.world) ∨
    ∃ e f, FlightWork.plan config (Flight.start config request w) = .error e f ∧
      BrokenOff config request w e f.session f.world := by
  have hstart := start_reaches config request w
  have hplan := FlightWork.plan_ends config (f := Flight.start config request w) rfl
  have hprogress := start_progress config request w
  generalize FlightWork.plan config (Flight.start config request w) = result at hplan
  cases hplan with
  | @planned f t plan hyields hopening hcore =>
    have hplanned : f.session.plan = some plan := (congrArg Session.plan hcore :)
    exact Or.inl ⟨f, rfl, hprogress.kept hcore rfl, congrArg Session.status hcore,
      ⟨plan, hplanned⟩, t, hstart.trans hyields.reaches, hopening⟩
  | @failed e f t kind hyields hopening hcore =>
    exact Or.inr ⟨e, f, rfl, .of_opening kind (hprogress.kept hcore rfl)
      (hopening.weaken (by omega)) (hstart.trans hyields.reaches)⟩

/-- Generating the component of a planned session brings it before its first round, or breaks
off. -/
theorem produce_outcome [ModelService σ] (prompt : String) {phase : Status} (message : String)
    {f : Flight σ π} (h : Planned config request w f.session f.world)
    (hphase : phase = .generating ∨ phase = .streaming)
    (hmessage : message ≠ "Repairing component") :
    (∃ generated f', FlightWork.produce config prompt phase message f = .ok generated f' ∧
      Underway config request w 0 f'.session f'.world) ∨
    ∃ e f', FlightWork.produce config prompt phase message f = .error e f' ∧
      BrokenOff config request w e f'.session f'.world := by
  obtain ⟨plan, hplan⟩ := h.plan
  obtain ⟨opening, hreaches, hopening⟩ := h.reaches
  have hprogress := h.progress
  have hmove : f.session.status.canMoveTo phase = true := by
    rw [h.status]
    rcases hphase with rfl | rfl <;> rfl
  have hopen : phase.isTerminal = false := by rcases hphase with rfl | rfl <;> rfl
  have hedge : phase.canMoveTo .validating = true := by rcases hphase with rfl | rfl <;> rfl
  have hproduce := FlightWork.produce_ends config prompt hplan hmove hopen hmessage
  generalize FlightWork.produce config prompt phase message f = result at hproduce
  cases hproduce with
  | @produced f' t generated hyields hopening' hcore =>
    have hstatus : f'.session.status = phase := congrArg Session.status hcore
    have hreached : w.Reaches (opening ++ t ++ {}) f'.world := by
      rw [Tally.append_empty]
      exact hreaches.trans hyields.reaches
    have hcode : f'.session.code = some generated.code := (congrArg Session.code hcore :)
    exact Or.inl ⟨generated, f', rfl, hprogress.kept hcore hopen, by rwa [hstatus],
      ⟨generated.code, hcode⟩, Nat.zero_le _, _, _, hreached, hopening.append hopening', .empty _⟩
  | @failed e f' t kind hyields hopening' hcore =>
    have hreached := hreaches.trans hyields.reaches
    rw [← Tally.append_assoc] at hreached
    exact Or.inr ⟨e, f', rfl, .of_opening kind (hprogress.kept hcore hopen)
      (hopening.append hopening') hreached⟩

/-- A session whose work broke off can still be failed. -/
theorem BrokenOff.open {e : Failure} {s : Session} {w' : World σ π}
    (h : BrokenOff config request w e s w') : s.status.isTerminal = false := by
  obtain ⟨hprogress, -⟩ := h
  exact hprogress.status

/-- Ending a session as failed after its work broke off always succeeds. -/
theorem BrokenOff.fail {e : Failure} {f : Flight σ π}
    (h : BrokenOff config request w e f.session f.world) :
    ∃ f', FlightWork.fail e f = .ok () f' ∧ Ended config request w f'.session f'.world := by
  obtain ⟨hprogress, hbound, hreaches, hopening, hrepairs, hbefore, hverdicts⟩ := h
  obtain ⟨f', hfail, hyields, hcore⟩ := FlightWork.fail_spec e hprogress.status
  have hid : f'.session.id = f.session.id := (congrArg Session.id hcore :)
  have hattempts : f'.session.attempts = f.session.attempts := (congrArg Session.attempts hcore :)
  refine ⟨f', hfail, hyields.origin.trans hprogress.origin, _, hreaches.trans hyields.reaches, ?_⟩
  rw [Tally.append_empty]
  refine .intro hopening ?_ ?_ (.broken hbefore hverdicts ?_ ?_ ?_)
  · rwa [hid, hattempts, hprogress.attempts]
  · rwa [hattempts, hprogress.attempts]
  · exact congrArg Session.status hcore
  · exact (congrArg Session.error hcore :)
  · exact (congrArg Session.artifactId hcore :).trans hprogress.artifactId

namespace Underway

variable {rounds : Nat} {f f' : Flight σ π}

/-- A verdict on the component of a session underway is that of the world in which the session was
opened, and it stands in the session after the round. -/
theorem judged {code : String} {status : Status} {artifactId : Option String} {entry : AuditEntry}
    (h : Underway config request w rounds f.session f.world) (hcode : f.session.code = some code)
    (hreports : entry.Reports f)
    (hcore : f'.session.core =
      { f.session.core with status, verdict := some f.verdict, artifactId }) :
    f.verdict = w.assess f'.session.tenant code ∧
      f'.session.Judged code (w.assess f'.session.tenant code) entry := by
  obtain ⟨opening, repairs, hreaches, -, -⟩ := h.reaches
  have hid : f'.session.id = f.session.id := (congrArg Session.id hcore :)
  have htenant : f'.session.tenant = f.session.tenant := (congrArg Session.tenant hcore :)
  have hverdict : f.verdict = w.assess f'.session.tenant code := by
    rw [Flight.verdict, Flight.code, hcode, hreaches.assess, htenant]
    rfl
  refine ⟨hverdict, (congrArg Session.error hcore :).trans h.progress.error,
    (congrArg Session.code hcore :).trans hcode, ?_, ?_, ?_⟩
  · rw [← hverdict]
    exact (congrArg Session.verdict hcore :)
  · rw [hid]
    exact hreports.1
  · rw [← hverdict]
    exact hreports.2

/-- A round that asks for another one repaired the component, and the invariant holds after it. -/
theorem again (h : Underway config request w rounds f.session f.world)
    (hround : FlightWork.RoundEnds f (.ok .again f')) :
    Underway config request w (rounds + 1) f'.session f'.world := by
  obtain ⟨opening, repairs, hreaches, hopening, hrepairs⟩ := h.reaches
  have hprogress := h.progress
  have hlimit := hprogress.limit
  cases hround with
  | @repaired _ entry request' result code hyields hreports hinvalid hleft hrepair hcore =>
    have hid : f'.session.id = f.session.id := (congrArg Session.id hcore :)
    have hstatus : f'.session.status = .reflexion := congrArg Session.status hcore
    rw [hprogress.attempts] at hyields hleft hcore
    have hentry : entry.session = some f.session.id ∧ entry.isValid = false :=
      ⟨hreports.1, hreports.2.trans hinvalid⟩
    have hreached := hreaches.trans hyields.reaches
    rw [Tally.append_assoc] at hreached
    refine ⟨hprogress.moved hcore rfl, by rw [hstatus]; rfl,
      ⟨code, (congrArg Session.code hcore :)⟩, by omega, opening, _, hreached, hopening, ?_⟩
    rw [hid]
    exact hrepairs.snoc result hentry hrepair

/-- A round that broke off leaves the session to be ended as failed. -/
theorem error {e : Failure} (h : Underway config request w rounds f.session f.world)
    (hround : FlightWork.RoundEnds f (.error e f')) :
    BrokenOff config request w e f'.session f'.world := by
  obtain ⟨opening, repairs, hreaches, hopening, hrepairs⟩ := h.reaches
  have hprogress := h.progress
  cases hround with
  | broken before hyields hbefore hverdicts hcore =>
    have hid : f'.session.id = f.session.id := (congrArg Session.id hcore :)
    refine .intro (hprogress.kept hcore rfl) h.bound (hreaches.trans hyields.reaches)
      hopening ?_ hbefore hverdicts
    rwa [hid]

/-- A session that ended in a round has run its course. -/
theorem ended {last : Tally} (h : Underway config request w rounds f.session f.world)
    (hyields : f.Yields last f') (hattempts : f'.session.attempts = f.session.attempts)
    (hlast : LastRound (w.assess f'.session.tenant) config.pipeline.maxAttempts f'.session last) :
    Ended config request w f'.session f'.world := by
  obtain ⟨opening, repairs, hreaches, hopening, hrepairs⟩ := h.reaches
  have hid : f'.session.id = f.session.id := congrArg Origin.id hyields.origin
  rw [h.progress.attempts] at hattempts
  refine ⟨hyields.origin.trans h.progress.origin, _, hreaches.trans hyields.reaches,
    .intro hopening ?_ ?_ hlast⟩
  · rwa [hid, hattempts]
  · rw [hattempts]
    exact h.bound

/-- A round that finished the session was its last one. -/
theorem finished (h : Underway config request w rounds f.session f.world)
    (hround : FlightWork.RoundEnds f (.ok .finished f')) :
    Ended config request w f'.session f'.world := by
  obtain ⟨code, hcode⟩ := h.code
  have hlimit := h.progress.limit
  have hattempts := h.progress.attempts
  have hbound := h.bound
  have hcode₁ : f.code = code := by rw [Flight.code, hcode]; rfl
  cases hround with
  | @completed _ entry hyields hreports hvalid hcore =>
    obtain ⟨hverdict, hjudged⟩ := h.judged hcode hreports hcore
    rw [hverdict] at hvalid
    rw [hcode₁] at hyields
    exact h.ended hyields (congrArg Session.attempts hcore :)
      (.completed (congrArg Session.status hcore) hjudged hvalid)
  | @exhausted _ entry record hyields hreports hinvalid hleft hrecord hcore =>
    obtain ⟨hverdict, hjudged⟩ := h.judged hcode hreports hcore
    have hsame : f'.session.attempts = f.session.attempts := (congrArg Session.attempts hcore :)
    rw [hverdict] at hinvalid hrecord
    exact h.ended hyields hsame
      (.exhausted (congrArg Session.status hcore) hjudged hinvalid (by omega) hrecord)
  | @unrepaired _ entry request' result hyields hreports hinvalid hleft hrepair hfruitless hcore =>
    obtain ⟨hverdict, hjudged⟩ := h.judged hcode hreports hcore
    have hsame : f'.session.attempts = f.session.attempts := (congrArg Session.attempts hcore :)
    rw [hverdict] at hinvalid
    rw [← hsame] at hyields
    exact h.ended hyields hsame
      (.unrepaired (congrArg Session.status hcore) hjudged hinvalid (by omega) hrepair hfruitless)

end Underway

end Steps

end ArtifactPipeline
