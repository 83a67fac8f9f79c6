import ArtifactPipeline.Proofs.Confinement
import ArtifactPipeline.Proofs.StateMachine
import Mathlib.Data.List.Destutter

/-!
# The log is the trace of the state machine

A session is offered to the store when it is created and after each move, so the versions that were
offered tell the statuses that the session took, one after the other. The log tells the same: the
phases of its entries, with equal neighbours taken together, are these statuses.
-/

namespace ArtifactPipeline

variable {σ π : Type}

/-! ## Equal neighbours taken together -/

/-- The statuses, with equal neighbours taken together. -/
def Status.collapsed (statuses : List Status) : List Status := statuses.destutter (· ≠ ·)

/-- Another status counts if it differs from the last one. -/
theorem Status.collapsed_concat {statuses : List Status} {s : Status}
    (hlast : statuses.getLast? = some s) (t : Status) : collapsed (statuses ++ [t]) =
      if s = t then collapsed statuses else collapsed statuses ++ [t] := by
  cases statuses with
  | nil => cases hlast
  | cons first rest =>
    simp only [collapsed, List.cons_append, List.destutter_cons']
    induction rest generalizing first with
    | nil =>
      obtain rfl : first = s := Option.some.inj hlast
      by_cases hst : first = t <;> simp [hst]
    | cons second rest ih =>
      have hrest : (second :: rest).getLast? = some s := by rwa [List.getLast?_cons_cons] at hlast
      by_cases hsame : first = second
      · subst hsame
        simpa using ih first hrest
      · simp only [List.cons_append, List.destutter'_cons, ne_eq, hsame, not_false_eq_true, if_true,
          ih second hrest]
        split <;> rfl

example : Status.collapsed [.validating, .validating, .reflexion, .validating, .validating] =
    [.validating, .reflexion, .validating] := by decide

/-! ## What the steps of a session tell -/

namespace SessionRun

variable {opened r r' : SessionRun} {done effects : List Effect} {course : List SessionRun}

/-- The status of a session and those under which it was offered to the store since then. -/
def trail (opened : SessionRun) (done : List Effect) : List Status :=
  opened.session.status :: (done.filterMap Effect.offered?).map (·.status)

/-- What offers no version of the session leaves its trail alone. -/
theorem trail_append (hnone : effects.filterMap Effect.offered? = []) :
    opened.trail (done ++ effects) = opened.trail done := by
  rw [trail, List.filterMap_append, hnone, List.append_nil]
  rfl

/-- The states of a session that is worked on, one step after the other, and what the log and the
store were told of them. -/
structure Traced (opened : SessionRun) (done : List Effect) (course : List SessionRun)
    (r : SessionRun) : Prop where
  opening : course.head? = some opened
  steps : course.IsChain fun r r' => ∃ effects, r.Step effects r'
  ending : course.getLast? = some r
  states : Status.collapsed (course.map (·.session.status)) = opened.trail done
  log : Status.collapsed (r.history.map (·.phase)) = opened.trail done
  /-- The last entry of the log is of the phase that the session is in. -/
  phase : (r.history.map (·.phase)).getLast? = some r.session.status
  edges : (opened.trail done).IsChain (·.canMoveTo · = true)
  last : (opened.trail done).getLast? = some r.session.status

/-- A session whose log has begun, and tells the status that the session is in. -/
theorem Traced.refl (hphases : r.history.map (·.phase) = [r.session.status]) :
    r.Traced [] [r] r where
  opening := rfl
  steps := .singleton _
  ending := rfl
  states := rfl
  log := by
    rw [hphases]
    rfl
  phase := by
    rw [hphases]
    rfl
  edges := .singleton _
  last := rfl

/-- Another state is reached in a step. -/
theorem Traced.course_concat (h : opened.Traced done course r) (hstep : r.Step effects r') :
    (course ++ [r']).head? = some opened ∧
      (course ++ [r']).IsChain (fun r r' => ∃ effects, r.Step effects r') ∧
      Status.collapsed ((course ++ [r']).map (·.session.status)) =
        if r.session.status = r'.session.status then opened.trail done
        else opened.trail done ++ [r'.session.status] := by
  refine ⟨?_, ?_, ?_⟩
  · rw [List.head?_append, h.opening]
    rfl
  · refine List.isChain_append.mpr ⟨h.steps, .singleton _, ?_⟩
    rintro s hs s' hs'
    obtain rfl : r = s := Option.some.inj (h.ending.symm.trans hs)
    obtain rfl : r' = s' := Option.some.inj hs'
    exact ⟨effects, hstep⟩
  · have hlast : (course.map (·.session.status)).getLast? = some r.session.status := by
      rw [List.getLast?_map, h.ending]
      rfl
    rw [List.map_append, ← h.states]
    exact Status.collapsed_concat hlast _

/-- A step in which the session does not move, and says at most something of its phase. -/
theorem Traced.stay (h : opened.Traced done course r) (hstep : r.Step effects r')
    (hstatus : r'.session.status = r.session.status)
    (hoffered : effects.filterMap Effect.offered? = [])
    (hhistory : r'.history = r.history ∨
      ∃ e, e.phase = r.session.status ∧ r'.history = r.history ++ [e]) :
    opened.Traced (done ++ effects) (course ++ [r']) r' := by
  obtain ⟨hopening, hsteps, hstates⟩ := h.course_concat hstep
  rw [if_pos hstatus.symm] at hstates
  have hlog : Status.collapsed (r'.history.map (·.phase)) = opened.trail done ∧
      (r'.history.map (·.phase)).getLast? = some r.session.status := by
    rcases hhistory with hsame | ⟨e, hphase, hmore⟩
    · rw [hsame]
      exact ⟨h.log, h.phase⟩
    · rw [hmore, List.map_append, List.map_singleton, hphase,
        Status.collapsed_concat h.phase, if_pos rfl]
      exact ⟨h.log, List.getLast?_concat⟩
  constructor
  case opening => exact hopening
  case steps => exact hsteps
  case ending => exact List.getLast?_concat
  case states => rw [hstates, trail_append hoffered]
  case log => rw [hlog.1, trail_append hoffered]
  case phase => rw [hlog.2, hstatus]
  case edges =>
    rw [trail_append hoffered]
    exact h.edges
  case last => rw [trail_append hoffered, h.last, hstatus]

/-- A step in which the session moves: it says so, and is offered to the store. -/
theorem Traced.move (h : opened.Traced done course r) (hstep : r.Step effects r')
    (hedge : r.session.status.canMoveTo r'.session.status = true)
    (hoffered : (effects.filterMap Effect.offered?).map (·.status) = [r'.session.status])
    {e : LogEntry} (hphase : e.phase = r'.session.status)
    (hhistory : r'.history = r.history ++ [e]) :
    opened.Traced (done ++ effects) (course ++ [r']) r' := by
  obtain ⟨hopening, hsteps, hstates⟩ := h.course_concat hstep
  have hne : r.session.status ≠ r'.session.status := Status.ne_of_canMoveTo hedge
  have htrail : opened.trail (done ++ effects) = opened.trail done ++ [r'.session.status] := by
    rw [trail, List.filterMap_append, List.map_append, hoffered]
    rfl
  have hphases : r'.history.map (·.phase) = r.history.map (·.phase) ++ [r'.session.status] := by
    rw [hhistory, List.map_append, List.map_singleton, hphase]
  constructor
  case opening => exact hopening
  case steps => exact hsteps
  case ending => exact List.getLast?_concat
  case states => rw [hstates, if_neg hne, htrail]
  case log => rw [hphases, Status.collapsed_concat h.phase, if_neg hne, h.log, htrail]
  case phase =>
    rw [hphases]
    exact List.getLast?_concat
  case edges =>
    rw [htrail]
    refine List.isChain_append.mpr ⟨h.edges, .singleton _, ?_⟩
    rintro s hs t ht
    obtain rfl : r.session.status = s := Option.some.inj (h.last.symm.trans hs)
    obtain rfl : r'.session.status = t := Option.some.inj ht
    exact hedge
  case last =>
    rw [htrail]
    exact List.getLast?_concat

/-- A step is traced by the version that it offers and the entries that it writes. -/
theorem Traced.step (h : opened.Traced done course r) (hstep : r.Step effects r') :
    opened.Traced (done ++ effects) (course ++ [r']) r' := by
  -- The step itself is kept: the course records that it was taken.
  cases id hstep with
  | ask he => exact h.stay hstep rfl (by simp [Effect.offered?_of_isAside he]) (.inl rfl)
  | change _ _ hstatus => exact h.stay hstep hstatus rfl (.inl rfl)
  | log _ hphase => exact h.stay hstep rfl rfl (.inr ⟨_, hphase, rfl⟩)
  | move hedge _ _ hphase => exact h.move hstep hedge rfl hphase rfl

/-- Whatever work consists of steps, the states in between, the log and the versions that the store
was offered tell the same statuses. -/
theorem Steps.traced (h : r.Steps effects r')
    (hphases : r.history.map (·.phase) = [r.session.status]) :
    ∃ course, r.Traced effects course r' :=
  h.preserve (P := fun done r' => ∃ course, r.Traced done course r')
    (fun ⟨_, htraced⟩ hstep => ⟨_, htraced.step hstep⟩) [] ⟨_, .refl hphases⟩

end SessionRun

/-! ## Runs -/

/-- What a report tells of the statuses that the session took since it was created. -/
structure SessionReport.Traces (report : SessionReport) (created : Session)
    (effects : List Effect) (course : List SessionRun) (trail : List Status) : Prop where
  /-- At first nothing has been said. -/
  opening : course.head? = some { session := created }
  steps : course.IsChain fun r r' => ∃ effects, r.Step effects r'
  ending : course.getLast?.map (·.session) = some report.session
  /-- The session took these statuses, one after the other. -/
  states : Status.collapsed (course.map (·.session.status)) = trail
  /-- They are the phases of the log. -/
  log : Status.collapsed (report.logs.map (·.phase)) = trail
  /-- Under each of them the session was offered to the store. -/
  offered : (effects.filterMap Effect.offered?).map (·.status) = trail
  /-- They lead from the opening to the end. -/
  isTrail : Status.IsTrail trail report.session.status
  orderly : Status.Orderly trail

/-- The log of every run is a faithful trace of the statuses that its session took. -/
theorem Entry.run_traces [ModelService σ] [Publisher π] (entry : Entry) (config : Config)
    (request : ComponentRequest) (w : World σ π) :
    ∃ report w' effects course trail, entry.run config request w = some (report, w') ∧
      w'.journal = w.journal ++ effects ∧
      report.Traces (Flight.start config request w).session effects course trail := by
  obtain ⟨f, hrun, hresult⟩ := entry.run_eq config request w
  obtain ⟨report, w', hresult', hended⟩ := entry.run_ended config request w
  obtain ⟨rfl, rfl⟩ : report = ⟨f.session, f.run.history⟩ ∧ w' = f.world := by
    simpa [hresult] using hresult'.symm
  obtain ⟨creation, first, unlogged, hsince⟩ := Flight.start_since config request w
  obtain ⟨effects, hmoves, hsteps⟩ :=
    FlightWork.runAs_goes entry config request (Flight.start config request w)
  rw [hrun] at hmoves hsteps
  obtain ⟨course, h⟩ := hsteps.traced rfl
  obtain ⟨rest, rfl⟩ := List.head?_eq_some_iff.mp h.opening
  let opened : SessionRun := (Flight.start config request w).run
  let created : SessionRun := { session := opened.session }
  -- The session had been created before its log began.
  have hfirst : created.Step [.store (.appendLog _) unlogged] opened := .log rfl rfl
  have htrail : Status.IsTrail (opened.trail effects) f.session.status :=
    ⟨rfl, h.edges, h.last, hended.isTerminal⟩
  refine ⟨_, _, _, created :: opened :: rest, opened.trail effects, hresult,
    (hsince.moves.trans hmoves).journal, ?_⟩
  constructor
  case opening => rfl
  case steps => exact List.isChain_cons_cons.mpr ⟨⟨_, hfirst⟩, h.steps⟩
  case ending =>
    rw [List.getLast?_cons_cons, h.ending]
    rfl
  case states =>
    rw [← h.states]
    rfl
  case log => exact h.log
  case offered => rfl
  case isTrail => exact htrail
  case orderly => exact htrail.orderly

end ArtifactPipeline
