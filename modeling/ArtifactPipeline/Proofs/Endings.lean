import ArtifactPipeline.Proofs.Runs

/-!
# What a run ends with

A run publishes nothing but a component that passed, and a session that completed or was rejected
holds the verdict on the component that it holds. A session fails exactly if an operation on which
the next step depended failed; that operation was the last one of its kind.
-/

namespace ArtifactPipeline

variable {σ π : Type}

section Course

variable {judge : String → Verdict} {limit : Nat} {s : Session} {t : Tally}

/-- Only the last round publishes, and only if it completes the session. -/
theorem Course.published (h : Course judge limit s t) :
    t.published = [] ∧ s.status ≠ .completed ∨
      ∃ code entry, t.published = [code] ∧ s.status = .completed ∧
        s.Judged code (judge code) entry ∧ (judge code).isValid = true := by
  obtain ⟨hopening, hrepairs, -, hlast⟩ := h
  simp only [Tally.published_append, hopening.published, hrepairs.published, List.nil_append]
  cases hlast with
  | broken _ _ hstatus | exhausted hstatus | unrepaired hstatus =>
    exact Or.inl ⟨rfl, by rw [hstatus]; decide⟩
  | @completed code entry hstatus hjudged hvalid =>
    exact Or.inr ⟨code, entry, rfl, hstatus, hjudged, hvalid⟩

/-- A session that completed or was rejected was judged by its own component. -/
theorem Course.judged (h : Course judge limit s t)
    (hstatus : s.status = .completed ∨ s.status = .rejected) :
    ∃ code entry, s.Judged code (judge code) entry ∧
      (s.status = .completed ↔ (judge code).isValid = true) := by
  obtain ⟨-, -, -, hlast⟩ := h
  cases hlast with
  | broken _ _ hfailed => simp [hfailed] at hstatus
  | @completed code entry hcompleted hjudged hvalid =>
    exact ⟨code, entry, hjudged, by simp [hcompleted, hvalid]⟩
  | @exhausted code entry _ hrejected hjudged hinvalid
  | @unrepaired code entry _ _ hrejected hjudged hinvalid =>
    exact ⟨code, entry, hjudged, by simp [hrejected, hinvalid]⟩

/-- If a session failed, the operation that failed was the last one on which the next step depended;
otherwise none of them failed. -/
theorem Course.gates (h : Course judge limit s t) :
    (∃ before kind e, t.gates = before ++ [⟨kind, some e⟩] ∧ (∀ g ∈ before, g.failure = none) ∧
      s.status = .failed ∧ s.error = some e.message ∧ s.artifactId = none) ∨
    (∀ g ∈ t.gates, g.failure = none) ∧ s.status ≠ .failed ∧ s.error = none := by
  obtain @⟨opening, repairs, last, hopening, hrepairs, -, hlast⟩ := h
  have hrounds : ∀ g ∈ opening.gates ++ repairs.gates, g.failure = none := by
    intro g hg
    rcases List.mem_append.mp hg with hg | hg
    · exact (hopening.gates g hg).2
    · rw [hrepairs.gates] at hg
      exact Gate.failure_of_mem_validated hg
  have hjudged : ∀ g ∈ opening.gates ++ repairs.gates ++ Gate.validated 1, g.failure = none := by
    intro g hg
    rcases List.mem_append.mp hg with hg | hg
    · exact hrounds g hg
    · exact Gate.failure_of_mem_validated hg
  simp only [Tally.gates_append]
  cases hlast with
  | @broken before kind e hbefore _ hstatus herror hartifact =>
    refine Or.inl ⟨_, kind, e, (List.append_assoc _ _ _).symm, ?_, hstatus, herror, hartifact⟩
    intro g hg
    rcases List.mem_append.mp hg with hg | hg
    · exact hrounds g hg
    · exact hbefore g hg
  | completed hstatus hjudge | exhausted hstatus hjudge | unrepaired hstatus hjudge =>
    exact Or.inr ⟨hjudged, by rw [hstatus]; decide, hjudge.error⟩

end Course

namespace Entry

variable [ModelService σ] [Publisher π]

/-- Nothing but a component that passed is published, at most once, and exactly if the session
completed. A session that completed or was rejected holds the verdict on the component that it
holds, under the rules and the allowed packages that the store had for the tenant. -/
theorem run_publishes_validated (entry : Entry) (config : Config) (request : ComponentRequest)
    (w : World σ π) :
    ∃ report w' effects, entry.run config request w = some (report, w') ∧
      w'.journal = w.journal ++ effects ∧
      let s := report.session
      let published := effects.filterMap Effect.published?
      s.tenant = request.tenant ∧ published.length ≤ 1 ∧
      (∀ code ∈ published, (w.assess s.tenant code).isValid = true ∧ s.status = .completed ∧
        s.code = some code ∧ s.verdict = some (w.assess s.tenant code)) ∧
      (s.status = .completed → published.length = 1) ∧
      (s.status = .completed ∨ s.status = .rejected →
        ∃ code, s.code = some code ∧ s.verdict = some (w.assess s.tenant code) ∧
          (s.status = .completed ↔ (w.assess s.tenant code).isValid = true)) := by
  obtain ⟨report, w', effects, hrun, hmoves, horigin, hcourse⟩ := entry.run_course config request w
  have htenant : report.session.tenant = request.tenant := congrArg Origin.tenant horigin
  refine ⟨report, w', effects, hrun, hmoves.journal, htenant, ?_⟩
  rw [htenant]
  have hown : report.session.status = .completed ∨ report.session.status = .rejected →
      ∃ code, report.session.code = some code ∧
        report.session.verdict = some (w.assess request.tenant code) ∧
        (report.session.status = .completed ↔ (w.assess request.tenant code).isValid = true) := by
    intro hstatus
    obtain ⟨code, entry, hjudged, hiff⟩ := hcourse.judged hstatus
    exact ⟨code, hjudged.code, hjudged.verdict, hiff⟩
  have hpublished : effects.filterMap Effect.published? = (tally effects).published := rfl
  rw [hpublished]
  rcases hcourse.published with ⟨hnone, hstatus⟩ | ⟨code, entry, hone, hstatus, hjudged, hvalid⟩
  · rw [hnone]
    exact ⟨by simp, by simp, fun h => absurd h hstatus, hown⟩
  · rw [hone]
    refine ⟨by simp, ?_, by simp, hown⟩
    intro other hother
    rw [List.mem_singleton.mp hother]
    exact ⟨hvalid, hstatus, hjudged.code, hjudged.verdict⟩

end Entry

/-- A failure that stops the work on a session is that of an operation on which the next step
depended, and no such operation follows it. -/
theorem FlightWork.drive_error [ModelService σ] [Publisher π] {config : Config}
    {request : ComponentRequest} {w : World σ π} {e : Failure} {f : Flight σ π}
    (h : drive config request (Flight.start config request w) = .error e f) :
    ∃ f' effects before kind,
      runToEnd config request (Flight.start config request w) = .ok () f' ∧
      w.Moves effects f'.world ∧ effects.filterMap Effect.gate? = before ++ [⟨kind, some e⟩] ∧
      f'.session.status = .failed := by
  obtain ⟨-, hsettled⟩ := drive_settled config request w
  rw [h] at hsettled
  cases hsettled with
  | broken hbroken =>
    obtain @⟨rounds, opening, repairs, before, kind, hprogress, -, hreaches, -⟩ := hbroken
    obtain ⟨f', hfail, hyields, hcore⟩ := fail_spec e hprogress.status
    obtain ⟨effects, hmoves, htally⟩ := hreaches.trans hyields.reaches
    refine ⟨f', effects, opening.gates ++ repairs.gates ++ before, kind, ?_, hmoves, ?_,
      congrArg Session.status hcore⟩
    · rw [runToEnd, h]
      exact hfail
    · have hgates := congrArg Tally.gates htally
      simpa [tally] using hgates

/-- The blocking way of working on a request never fails. Its session ends, as failed exactly if an
operation failed on which the next step depended: that operation was the last one of its kind, the
session has the text of its failure, and nothing was published. No other failure stops the work. -/
theorem execute_fails_at_gates [ModelService σ] [Publisher π] (config : Config)
    (request : ComponentRequest) (w : World σ π) :
    ∃ report w' effects, execute config request w = .ok report w' ∧
      w'.journal = w.journal ++ effects ∧
      let s := report.session
      let gates := effects.filterMap Effect.gate?
      (s.status = .completed ∨ s.status = .rejected ∨ s.status = .failed) ∧
      (∀ e f, FlightWork.drive config request (Flight.start config request w) = .error e f →
        s.status = .failed ∧ ∃ before kind, gates = before ++ [⟨kind, some e⟩]) ∧
      (s.status = .failed ↔ ∃ g ∈ gates, g.failure ≠ none) ∧
      (s.status = .failed → s.artifactId = none ∧ effects.filterMap Effect.published? = [] ∧
        ∃ before kind e, gates = before ++ [⟨kind, some e⟩] ∧ (∀ g ∈ before, g.failure = none) ∧
          s.error = some e.message) ∧
      (s.status ≠ .failed → s.error = none) := by
  obtain ⟨report, w', effects, hrun, hmoves, horigin, hcourse⟩ :=
    Entry.run_course .blocking config request w
  have hexecute := Entry.execute_of_run hrun
  refine ⟨report, w', effects, hexecute, hmoves.journal, hcourse.status, ?_, ?_⟩
  · intro e f hdrive
    obtain ⟨f', effects', before, kind, hend, hmoves', hgates, hstatus⟩ :=
      FlightWork.drive_error hdrive
    have hreport : execute config request w = .ok ⟨f'.session, f'.run.history⟩ f'.world := by
      simp only [execute, hend]
    rw [hexecute] at hreport
    cases hreport
    have heffects : effects = effects' :=
      List.append_cancel_left (hmoves.journal.symm.trans hmoves'.journal)
    rw [heffects]
    exact ⟨hstatus, before, kind, hgates⟩
  · have hgates : effects.filterMap Effect.gate? = (tally effects).gates := rfl
    have hpublished : effects.filterMap Effect.published? = (tally effects).published := rfl
    rw [hgates, hpublished]
    rcases hcourse.gates with
      ⟨before, kind, e, hlast, hbefore, hstatus, herror, hartifact⟩ | ⟨hnone, hstatus, herror⟩
    · have hnothing : (tally effects).published = [] := by
        rcases hcourse.published with ⟨hnone, -⟩ | ⟨code, entry, -, hcompleted, -⟩
        · exact hnone
        · rw [hstatus] at hcompleted
          cases hcompleted
      refine ⟨⟨fun _ => ⟨⟨kind, some e⟩, by simp [hlast], by simp⟩, fun _ => hstatus⟩,
        fun _ => ⟨hartifact, hnothing, before, kind, e, hlast, hbefore, herror⟩,
        fun h => absurd hstatus h⟩
    · refine ⟨⟨fun h => absurd h hstatus, ?_⟩, fun h => absurd h hstatus, fun _ => herror⟩
      rintro ⟨g, hg, hfailure⟩
      exact absurd (hnone g hg) hfailure

end ArtifactPipeline
