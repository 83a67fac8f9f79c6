import ArtifactPipeline.Proofs.PhaseSteps
import ArtifactPipeline.Proofs.TandemRuns
import ArtifactPipeline.Proofs.Runs

/-!
# Streams relay runs

A stream hands out the log of a session while it works on it. The entries that wait to be handed out
play no part in the work, so a session whose log has been handed out and one whose log has been kept
are in tandem with each other, in one world.
-/

namespace ArtifactPipeline

variable {σ π α : Type}

/-- No leeway at all, in the streaming way of working. -/
def Leeway.none : Leeway where
  left := .streaming
  right := .streaming
  exact := True
  agree := True

/-- A world keeps pace with itself. -/
theorem Pace.self : Pace .none (@Eq (World σ π)) where
  now h := by rw [h]
  moment h _ := by rw [h]
  log he h := by rw [h, he.eq trivial rfl trivial]
  update hs h := by rw [h, hs.eq trivial rfl]

/-- A world is in tandem with itself. -/
theorem Tandem.self [ModelService σ] : Tandem .none (@Eq (World σ π)) Eq where
  working := .self
  finish h := h
  freshId h := by rw [h]
  name h _ := by rw [h]
  create hs h := by rw [h, hs.eq trivial rfl]
  read c _ h := by rw [h]; exact .of_eq rfl rfl
  invoke request h := by rw [h]; exact .of_eq rfl rfl
  evaluate code rules allowlist h := by rw [h]; exact .of_eq rfl rfl
  audit he h := by rw [h, he.eq trivial]
  review hr h := by rw [h, hr.eq trivial]
  filed hr h _ := by rw [h, hr.eq trivial]
  count id success h := by rw [h]

/-- One publisher does the same for one session. -/
theorem PublishesAlike.self [Publisher π] : PublishesAlike .none (@Eq (World σ π)) Eq := by
  intro s₁ s₂ w₁ w₂ code hs _ _ h
  rw [h, hs.eq trivial rfl]
  exact ⟨rfl, fun _ => rfl, rfl⟩

/-- A session is alike itself without any leeway. -/
theorem Session.Alike.refl (s : Session) : s.Alike .none s :=
  ⟨by rw [Leeway.status_of_same rfl], rfl, fun _ => ⟨rfl, rfl, rfl⟩⟩

/-- A log entry is alike itself without any leeway. -/
theorem LogEntry.Alike.refl (e : LogEntry) : e.Alike .none e :=
  ⟨(Leeway.status_of_same rfl _).symm, rfl, .same _ (.inl rfl), fun _ => ⟨rfl, rfl⟩⟩

namespace Flight

/-- The flight without the entries that wait to be handed out. -/
def drained (f : Flight σ π) : Flight σ π := ⟨Stage.drained f, f.world⟩

/-- The flight `g`, on which a stream worked on after it had handed out the log of `f`, is at the
same place as `h`, on which a run worked on after `f`. What waits to be handed out is what the log
gained. -/
structure Relays (f h g : Flight σ π) : Prop where
  drained : g.drained = h.drained
  history : h.run.history = f.run.history ++ g.run.pending

namespace Relays

variable {f g h g' h' : Flight σ π}

/-- A stream that has handed out the log of a flight goes on with the flight. -/
theorem start (f : Flight σ π) : f.Relays f f.drained := ⟨rfl, (List.append_nil _).symm⟩

/-- What is handed out makes no difference to the stage. -/
theorem stage (r : f.Relays h g) : Stage.drained g = Stage.drained h :=
  (congrArg Flight.run r.drained :)

/-- What is handed out makes no difference to the session. -/
theorem session (r : f.Relays h g) : g.session = h.session :=
  (congrArg SessionRun.session r.stage :)

/-- What is handed out makes no difference to the list of the repairs. -/
theorem previous (r : f.Relays h g) : g.run.previous = h.run.previous :=
  (congrArg SessionRun.previous r.stage :)

/-- What is handed out makes no difference to the log. -/
theorem log (r : f.Relays h g) : g.run.history = h.run.history :=
  (congrArg SessionRun.history r.stage :)

/-- What is handed out makes no difference to the world. -/
theorem world (r : f.Relays h g) : g.world = h.world := (congrArg Flight.world r.drained :)

/-- Nothing that the work looks at tells the two flights apart. -/
theorem abreast (r : f.Relays h g) (hartifact : h.session.artifactId = none) :
    h.Abreast .none Eq h.session.status g := by
  refine ⟨⟨?_, r.previous, ?_, r.world.symm⟩, rfl, hartifact⟩
  · rw [r.session]
    exact .refl _
  · rw [r.log]
    exact List.forall₂_same.mpr fun e _ => .refl e

/-- Steps that lead to alike flights relay the run. -/
theorem goes (r : f.Relays h g) (halike : h'.Alike .none Eq g') (hgoes : g.Goes g') :
    f.Relays h' g' := by
  have hsession := halike.session.eq trivial rfl
  have hhistory := LogEntry.eq_of_alike halike.history trivial rfl trivial
  obtain ⟨effects, -, hsteps⟩ := hgoes
  -- The steps put the same entries into the log and among those that wait.
  have howns := hsteps.owns
  refine ⟨?_, ?_⟩
  · have hprevious := halike.previous
    have hworld := halike.world
    obtain ⟨⟨session₁, previous₁, history₁, pending₁⟩, w₁⟩ := h'
    obtain ⟨⟨session₂, previous₂, history₂, pending₂⟩, w₂⟩ := g'
    cases hsession
    cases hhistory
    cases hprevious
    cases hworld
    rfl
  · rw [hhistory, howns.history, howns.pending, r.log, r.history, List.append_assoc]

/-- Work whose results are alike relays the run. -/
theorem agrees {work : FlightWork σ π α} {E : Flight σ π → Flight σ π → Prop}
    {P : α → Flight σ π → Flight σ π → Prop} (r : f.Relays h g)
    (hagrees : Agrees E P (work h) (work g)) (herror : ∀ h g, E h g → h.Alike .none Eq g)
    (hok : ∀ a h g, P a h g → h.Alike .none Eq g) (hgoes : g.Goes (endState (work g))) :
    Agrees f.Relays (fun _ => f.Relays) (work h) (work g) := by
  generalize work h = result₁ at hagrees ⊢
  generalize work g = result₂ at hagrees hgoes ⊢
  cases hagrees with
  | ok hp => exact .ok (r.goes (hok _ _ _ hp) hgoes)
  | error he => exact .error (r.goes (herror _ _ he) hgoes)

/-- Failing both sessions relays the end of the one to the other. -/
theorem fail (r : f.Relays h g) (failure : Failure) (hartifact : h.session.artifactId = none)
    (hopen : h.session.status.isTerminal = false) :
    Agrees f.Relays (fun _ => f.Relays) (FlightWork.fail failure h) (FlightWork.fail failure g) :=
  r.agrees (E := fun _ _ => False)
    (FlightWork.fail_agrees .self failure ((r.abreast hartifact).stalled hopen))
    (fun _ _ h => h.elim) (fun _ _ _ h => h.toAlike) (FlightWork.fail_goes failure g)

/-- Sessions that break off together without leeway are alike. -/
theorem alike_of_stalled (h g : Flight σ π) (hstalled : h.Stalled .none Eq g) :
    h.Alike .none Eq g := by
  obtain ⟨status, -, habreast⟩ := hstalled
  exact habreast.toAlike

/-- A generation in the stream is the generation in the run. -/
theorem produce [ModelService σ] (r : f.Relays h g) (config : Config) (prompt : String)
    {plan : Plan} (hstatus : h.session.status = .planning)
    (hartifact : h.session.artifactId = none) (hplan : h.session.plan = some plan) :
    Agrees f.Relays (fun _ => f.Relays)
      (FlightWork.produce config prompt .streaming "Streaming component" h)
      (FlightWork.produce config prompt .streaming "Streaming component" g) := by
  have habreast := r.abreast hartifact
  rw [hstatus] at habreast
  exact r.agrees (FlightWork.produce_agrees .self config prompt habreast hplan) alike_of_stalled
    (fun _ _ _ h => h.toAlike) (FlightWork.produce_goes config prompt _ _ g)

/-- A round in the stream is the round in the run. -/
theorem round [ModelService σ] [Publisher π] (r : f.Relays h g) (config : Config)
    (hartifact : h.session.artifactId = none)
    (hedge : h.session.status.canMoveTo .validating = true) :
    Agrees f.Relays (fun _ => f.Relays) (FlightWork.round config h)
      (FlightWork.round config g) := by
  refine r.agrees (FlightWork.round_agrees .self config (r.abreast hartifact) hedge)
    alike_of_stalled (fun next h g hg => ?_) (FlightWork.round_goes config g)
  cases next with
  | again => exact Flight.Abreast.toAlike hg
  | finished => exact Flight.Landed.alike hg .self .self (fun h => h) .self

end Relays

end Flight

end ArtifactPipeline
