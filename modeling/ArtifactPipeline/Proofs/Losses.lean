import ArtifactPipeline.Proofs.Agreement
import ArtifactPipeline.Proofs.ModelCalls

/-!
# What a run loses without harm

A run goes on when something it writes is lost, and so it does when its component cannot be
published. Two runs that lose different things ask the model the same, and report the same, but for
what tells of the loss itself.
-/

namespace ArtifactPipeline

open Json

variable {σ π : Type}

/-- Alike effects are the same call of the model, if any. -/
theorem Effect.Alike.modelCall? {k : Leeway} {e₁ e₂ : Effect} (h : e₁.Alike k e₂) :
    e₂.modelCall? = e₁.modelCall? := by
  cases h <;> rfl

/-- What was done alike has asked the model the same. -/
theorem Effect.filterMap_modelCall?_of_alike {k : Leeway} {effects₁ effects₂ : List Effect}
    (h : List.Forall₂ (Effect.Alike k) effects₁ effects₂) :
    effects₂.filterMap Effect.modelCall? = effects₁.filterMap Effect.modelCall? := by
  induction h with
  | nil => rfl
  | cons he _ ih => rw [List.filterMap_cons, List.filterMap_cons, he.modelCall?, ih]

/-- Two runs whose traces are alike have asked the model the same. -/
theorem World.Traced.consults {k : Leeway} {w₁ w₂ w₁' w₂' : World σ π}
    (h : w₁'.Traced k w₁.journal w₂') (hpast : w₂.journal = w₁.journal) :
    ∃ calls, w₁.Consults calls w₁' ∧ w₂.Consults calls w₂' := by
  obtain ⟨effects₁, effects₂, hjournal₁, hjournal₂, halike⟩ := h
  exact ⟨_, ⟨effects₁, hjournal₁, rfl⟩, effects₂, hjournal₂.trans (by rw [hpast]),
    Effect.filterMap_modelCall?_of_alike halike⟩

/-- Completing a session asks the model nothing. -/
theorem FlightWork.complete_consults [Publisher π] {code : String} {f f' : Flight σ π}
    (hstatus : f.session.status = .validating) (h : complete code f = .ok () f') :
    f.world.Consults [] f'.world := by
  obtain ⟨g, hcomplete, hyields, -⟩ := complete_spec code hstatus
  cases h.symm.trans hcomplete
  exact hyields.consults

/-- Two runs ask the model the same, whatever their publishers do. -/
theorem Flight.Landed.consults [Publisher π] {k : Leeway} {P : π → π → Prop} {w₁ w₂ : World σ π}
    {f₁ f₂ : Flight σ π} (h : f₁.Landed k (World.Tied k w₁.journal P)
      (World.Traced k w₁.journal) f₂) (hpast : w₂.journal = w₁.journal) :
    ∃ calls, w₁.Consults calls f₁.world ∧ w₂.Consults calls f₂.world := by
  rcases h with ⟨g₁, g₂, code, habreast, hcomplete₁, hcomplete₂⟩ | ⟨status, -, habreast⟩
  · obtain ⟨calls, hconsults₁, hconsults₂⟩ := habreast.world.traced.consults hpast
    exact ⟨calls,
      hconsults₁.then_none (FlightWork.complete_consults habreast.status hcomplete₁),
      hconsults₂.then_none (FlightWork.complete_consults habreast.status_right hcomplete₂)⟩
  · exact habreast.world.consults hpast

/-- What the log says of a component that passed. -/
def LogEntry.IsAcceptanceOf (e : LogEntry) (s : Session) : Prop :=
  ∃ time, e = {
    session := s.id, phase := .completed, level := .info, message := "Component accepted"
    data := .obj [("artifact_id", .text? s.artifactId)], time }

/-- What the log says of a component that could not be published. -/
def LogEntry.IsWarningOf (e : LogEntry) (s : Session) : Prop :=
  ∃ failure time, e = {
    session := s.id, phase := .validating, level := .warn, message := "Publishing failed"
    data := .obj [("error", .str failure)], time }

/-- The second report is the first one of a session whose component could not be published: the
artifact has no name, and a warning stands before the last entry of the log. -/
structure SessionReport.Unpublished (k : Leeway) (r₁ r₂ : SessionReport) : Prop where
  session : r₂.session = { r₁.session with
    id := r₂.session.id, artifactId := none, timeline := r₂.session.timeline }
  artifact : r₁.session.artifactId.isSome = true
  logs : ∃ before₁ accepted₁ before₂ warning accepted₂,
    r₁.logs = before₁ ++ [accepted₁] ∧ r₂.logs = before₂ ++ [warning, accepted₂] ∧
      List.Forall₂ (LogEntry.Alike k) before₁ before₂ ∧ accepted₁.IsAcceptanceOf r₁.session ∧
      warning.IsWarningOf r₂.session ∧ accepted₂.IsAcceptanceOf r₂.session
  /-- With the same names and clocks, nothing but the moment of the end may be another one. -/
  exact : k.exact → r₂.session.id = r₁.session.id ∧ r₂.session.timeline =
    { r₁.session.timeline with finished := r₂.session.timeline.finished }

namespace FlightWork

variable [Publisher π] {f g : Flight σ π} {code : String}

/-- A session that was handed to the publisher completes with one more entry in its log. -/
theorem complete_reports (hstatus : f.session.status = .validating)
    (h : complete code f = .ok () g) :
    ∃ time accepted, g.session = { (f.offered code).session with
        status := .completed
        timeline := (f.offered code).session.timeline.enter .completed time } ∧
      g.run.history = (f.offered code).run.history ++ [accepted] ∧
      accepted.IsAcceptanceOf g.session := by
  rw [complete_eq code hstatus] at h
  cases h
  exact ⟨_, _, rfl, rfl, _, rfl⟩

/-- A session that is published is completed with the name of its artifact. -/
theorem complete_of_ok {name : String} (hstatus : f.session.status = .validating)
    (hpublish : (Publisher.publish f.session code f.world.publisher).1 = .ok name)
    (h : complete code f = .ok () g) :
    ∃ time accepted, g.session = { f.session with
        status := .completed, artifactId := some name
        timeline := f.session.timeline.enter .completed time } ∧
      g.run.history = f.run.history ++ [accepted] ∧ accepted.IsAcceptanceOf g.session := by
  have hoffer : f.world.publish f.session code =
      (.ok name, (f.world.publish f.session code).2) := Prod.ext hpublish rfl
  have hreports := complete_reports hstatus h
  rw [Flight.offered, hoffer] at hreports
  exact hreports

/-- A session that cannot be published is completed without a name, after a warning. -/
theorem complete_of_error {e : Failure} (hstatus : f.session.status = .validating)
    (hpublish : (Publisher.publish f.session code f.world.publisher).1 = .error e)
    (h : complete code f = .ok () g) :
    ∃ time warning accepted, g.session = { f.session with
        status := .completed, timeline := f.session.timeline.enter .completed time } ∧
      g.run.history = f.run.history ++ [warning, accepted] ∧
      warning.IsWarningOf g.session ∧ accepted.IsAcceptanceOf g.session := by
  have hoffer : f.world.publish f.session code =
      (.error e, (f.world.publish f.session code).2) := Prod.ext hpublish rfl
  obtain ⟨time, accepted, hsession, hhistory, haccepted⟩ := complete_reports hstatus h
  rw [Flight.offered, hoffer] at hsession hhistory
  refine ⟨time, _, accepted, hsession, hhistory.trans (List.append_assoc _ _ _), ?_, haccepted⟩
  rw [hsession]
  exact ⟨e.message, _, congrArg (fun phase => ({
    session := f.session.id, phase, level := .warn, message := "Publishing failed"
    data := .obj [("error", .str e.message)]
    time := (f.world.publish f.session code).2.now.1 } : LogEntry)) hstatus⟩

end FlightWork

/-- If the publisher of one run always succeeds and that of the other one always fails, completed
sessions differ in their artifact and in a warning. -/
theorem Flight.Completed.unpublished [Publisher π] {k : Leeway} {past : List Effect} {p₁ p₂ : π}
    {g₁ g₂ : Flight σ π}
    (h : g₁.Completed k (World.Tied k past fun p q => p = p₁ ∧ q = p₂) g₂)
    (hsucceeds : ∀ s code, ∃ name, (Publisher.publish s code p₁).1 = .ok name)
    (hfails : ∀ s code, ∃ e, (Publisher.publish s code p₂).1 = .error e) :
    SessionReport.Unpublished k ⟨g₁.session, g₁.run.history⟩ ⟨g₂.session, g₂.run.history⟩ := by
  obtain ⟨f₁, f₂, code, habreast, hcomplete₁, hcomplete₂⟩ := h
  obtain ⟨hpublisher₁, hpublisher₂⟩ := habreast.world.publisher
  obtain ⟨name, hname⟩ := hsucceeds f₁.session code
  obtain ⟨e, hfailure⟩ := hfails f₂.session code
  rw [← hpublisher₁] at hname
  rw [← hpublisher₂] at hfailure
  obtain ⟨time₁, accepted₁, hsession₁, hhistory₁, haccepted₁⟩ :=
    FlightWork.complete_of_ok habreast.status hname hcomplete₁
  obtain ⟨time₂, warning, accepted₂, hsession₂, hhistory₂, hwarning, haccepted₂⟩ :=
    FlightWork.complete_of_error habreast.status_right hfailure hcomplete₂
  have hartifact₂ := habreast.artifactId_right
  refine ⟨?_, ?_, ⟨_, accepted₁, _, warning, accepted₂, hhistory₁, hhistory₂, habreast.history,
    haccepted₁, hwarning, haccepted₂⟩, fun hexact => ?_⟩
  · dsimp only
    rw [hsession₁, hsession₂, habreast.session.same, hartifact₂]
  · dsimp only
    rw [hsession₁]
    rfl
  · dsimp only
    obtain ⟨hid, -, htimeline⟩ := habreast.session.exact hexact
    rw [hsession₁, hsession₂, htimeline]
    exact ⟨hid, rfl⟩

/-- A run that loses other writes than another one asks the model the same and reports the same, up
to whether a session could be put before a human. If one publisher always succeeds and the other one
always fails, the component of a completed session has no artifact and the log warns of that; it
makes no difference to other sessions. -/
theorem execute_survives_losses [ModelService σ] [Publisher π] (config : Config)
    (request : ComponentRequest) {exact agree : Prop} {w₁ w₂ : World σ π}
    (h : w₁.Akin ⟨.blocking, .blocking, exact, agree⟩ w₂) :
    ∃ report₁ report₂ w₁' w₂' calls,
      execute config request w₁ = .ok report₁ w₁' ∧ execute config request w₂ = .ok report₂ w₂' ∧
      w₁.Consults calls w₁' ∧ w₂.Consults calls w₂' ∧
      (Publisher.Alike ⟨.blocking, .blocking, exact, agree⟩ w₁.publisher w₂.publisher →
        report₁.Alike ⟨.blocking, .blocking, exact, agree⟩ report₂) ∧
      ((∀ s code, ∃ name, (Publisher.publish s code w₁.publisher).1 = .ok name) →
        (∀ s code, ∃ e, (Publisher.publish s code w₂.publisher).1 = .error e) →
        (report₁.session.status = .completed →
          report₁.Unpublished ⟨.blocking, .blocking, exact, agree⟩ report₂) ∧
        (report₁.session.status ≠ .completed →
          report₁.Alike ⟨.blocking, .blocking, exact, agree⟩ report₂ ∧
          (exact → agree → report₂ = report₁))) := by
  obtain ⟨f₁, f₂, hrun₁, hrun₂, hended, hlanded⟩ := h.runs config request
  obtain ⟨calls, hconsults₁, hconsults₂⟩ := hlanded.consults h.journal
  refine ⟨_, _, _, _, calls, Entry.execute_of_run hrun₁, Entry.execute_of_run hrun₂, hconsults₁,
    hconsults₂, fun hpublishers => (hlanded.alike_of_publishers hpublishers).report hended,
    fun hsucceeds hfails => ⟨fun hcompleted => ?_, fun hother => ?_⟩⟩
  · rcases hlanded with hboth | ⟨status, hstatus, habreast⟩
    · exact hboth.unpublished hsucceeds hfails
    · exact absurd (habreast.status.symm.trans hcompleted) hstatus
  -- Nothing was handed to a publisher in a session that has not completed.
  · rcases hlanded with ⟨g₁, g₂, code, habreast, hcomplete₁, -⟩ | ⟨status, -, habreast⟩
    · obtain ⟨time, accepted, hsession, -⟩ :=
        FlightWork.complete_reports habreast.status hcomplete₁
      exact absurd (congrArg Session.status hsession) hother
    · have hreports := habreast.toAlike.report hended
      exact ⟨hreports, fun hexact hagree => hreports.eq hexact rfl hagree⟩

/-- In a store that loses everything that is written, with a publisher that is switched off. -/
theorem execute_survives_total_loss :
    let request : ComponentRequest := { tenant := "acme", user := "ann", prompt := "A button" }
    let w₁ : World ScriptedModel MemoryPublisher := {
      store := .withPolicy 300
      faults := fun _ _ => false
      model := {}
      publisher := { names := fun _ => "artifact" }
      regexes := { limit := 1048576 }
      journal := []
      clock := fun reading => ⟨reading, 0⟩
      readings := 0
      ids := fun number => ⟨number⟩
      begun := 0 }
    let w₂ : World ScriptedModel MemoryPublisher := { w₁ with
      faults := fun method _ => !method.isRead
      publisher := { w₁.publisher with offline := true } }
    let k : Leeway := ⟨.blocking, .blocking, True, False⟩
    w₁.Akin k w₂ ∧ ∃ report₁ report₂ w₁' w₂' calls,
      execute {} request w₁ = .ok report₁ w₁' ∧ execute {} request w₂ = .ok report₂ w₂' ∧
      w₁.Consults calls w₁' ∧ w₂.Consults calls w₂' ∧
      (report₁.session.status = .completed → report₁.Unpublished k report₂) ∧
      (report₁.session.status ≠ .completed → report₁.Alike k report₂) := by
  intro request w₁ w₂ k
  have hreads (method : StoreMethod) (hread : method.isRead = true) :
      w₂.faults method = w₁.faults method := by
    funext number
    show (!method.isRead) = false
    rw [hread]
    rfl
  have hakin : w₁.Akin k w₂ :=
    ⟨rfl, rfl, rfl, rfl, hreads, False.elim, fun _ => ⟨rfl, rfl⟩, fun _ => ⟨rfl, rfl⟩⟩
  obtain ⟨report₁, report₂, w₁', w₂', calls, hrun₁, hrun₂, hconsults₁, hconsults₂, -,
    hpublishing⟩ := execute_survives_losses {} request hakin
  obtain ⟨hcompleted, hother⟩ := hpublishing (fun _ _ => ⟨_, rfl⟩) (fun _ _ => ⟨_, rfl⟩)
  exact ⟨hakin, report₁, report₂, w₁', w₂', calls, hrun₁, hrun₂, hconsults₁, hconsults₂,
    hcompleted, fun hstatus => (hother hstatus).1⟩

end ArtifactPipeline
