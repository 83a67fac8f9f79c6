import ArtifactPipeline.Metrics.Tenant
import ArtifactPipeline.Model.Script
import ArtifactPipeline.Proofs.Keyed
import ArtifactPipeline.Proofs.PhaseSteps

/-!
# What is stored is what is reported

The session of a run is changed many times between the moments when it is stored, and any of those
calls may fail. But the last of them comes after the last change, so the store holds the session as
it is reported if it took it then. Of the log it holds what it took, in order.
-/

namespace ArtifactPipeline

variable {σ π α : Type}

/-- The log entry that the store took. -/
def Effect.kept? : Effect → Option LogEntry
  | store (.appendLog entry) none => some entry
  | _ => none

/-- What the store holds of a session after it was offered another version of it. -/
def Session.latest (held : Session) : Session × Option StoreError → Session
  | (offered, none) => offered
  | (_, some _) => held

namespace MemoryStore

/-- A call that succeeds appends the log entry that it brings, if it brings one. -/
theorem logs_of_answer {m next : MemoryStore} {c : StoreCall} {answer : c.Answer}
    (hc : c.method.isRoutine = true) (h : m.answer c = .ok (answer, next)) :
    next.logs = m.logs ++ (Effect.store c none).kept?.toList := by
  cases c with
  | createSession | updateSession | recordPatternUsage =>
    simp only [MemoryStore.answer] at h
    split at h <;> cases h
    exact (List.append_nil _).symm
  | listPatterns | getPattern | activeRules | allowlist | appendAudit | createReview =>
    cases h
    exact (List.append_nil _).symm
  | appendLog entry => cases h; rfl
  | getSession | listSessions | sessionLogs | savePattern | upsertRule
  | addAllowedDependency => cases hc

/-- The log of the store gains the entry that it takes. -/
theorem replay_logs (m : MemoryStore) {e : Effect} (he : e.isRoutine = true) :
    (m.replay e).logs = m.logs ++ e.kept?.toList := by
  match e, he with
  | .model .., _ | .publish .., _ => exact (List.append_nil _).symm
  | .store call (some failure), _ => cases call <;> exact (List.append_nil _).symm
  | .store call none, he =>
    simp only [replay]
    split
    · next h => exact logs_of_answer he h
    · next h =>
      cases call with
      | appendLog entry => cases h
      | _ => exact (List.append_nil _).symm

/-- Replaying a journal appends the log entries that the store took, in order. -/
theorem foldl_replay_logs (m : MemoryStore) {effects : List Effect}
    (heffects : ∀ e ∈ effects, e.isRoutine = true) :
    (effects.foldl replay m).logs = m.logs ++ effects.filterMap Effect.kept? :=
  m.foldl_replay_append fun m e he => m.replay_logs (heffects e he)

/-- A call that neither creates nor updates a session leaves the sessions alone. -/
theorem sessions_of_answer {m next : MemoryStore} {c : StoreCall} {answer : c.Answer}
    (hcreation : (Effect.store c none).creation? = none)
    (hupdate : (Effect.store c none).update? = none)
    (h : m.answer c = .ok (answer, next)) : next.sessions = m.sessions := by
  cases c with
  | createSession => cases hcreation
  | updateSession => cases hupdate
  | recordPatternUsage =>
    simp only [MemoryStore.answer] at h
    split at h <;> cases h
    rfl
  | addAllowedDependency tenant package =>
    cases h
    cases tenant <;> rfl
  | _ => cases h; rfl

/-- A stored session stays the same until it is replaced. -/
theorem find?_replay {m : MemoryStore} {id : SessionId} {held : Session} {e : Effect}
    (hheld : m.sessions.find? (·.id == id) = some held) (hcreation : e.creation? = none)
    (hown : ∀ u, e.update? = some u → u.1.id = id) :
    (m.replay e).sessions.find? (·.id == id) =
      some ((e.update?.toList).foldl Session.latest held) := by
  match e with
  | .model .. | .publish .. => exact hheld
  | .store call (some failure) => cases call <;> exact hheld
  | .store call none =>
    cases hupdate : (Effect.store call none).update? with
    | none =>
      simp only [replay]
      split
      · next h =>
        rw [sessions_of_answer hcreation hupdate h]
        exact hheld
      · exact hheld
    | some u =>
      cases call with
      | updateSession s =>
        cases hupdate
        obtain rfl : s.id = id := hown (s, none) rfl
        have hreplaced (items : List Session)
            (h : replaceFirst? (·.id == s.id) (fun _ => s) m.sessions = some items) :
            items.find? (·.id == s.id) = some s := by
          rw [find?_replaceFirst? h fun _ => beq_self_eq_true s.id, hheld, Option.map_some]
        simp only [replay, answer]
        cases hreplace : replaceFirst? (·.id == s.id) (fun _ => s) m.sessions with
        | none =>
          rw [replaceFirst?_eq_none, hheld] at hreplace
          cases hreplace
        | some sessions => exact hreplaced sessions hreplace
      | _ => cases hupdate

/-- A stored session is replaced by each version of it that the store takes. -/
theorem find?_foldl_replay {m : MemoryStore} {id : SessionId} {held : Session}
    {effects : List Effect} (hheld : m.sessions.find? (·.id == id) = some held)
    (hcreations : effects.filterMap Effect.creation? = [])
    (hown : ∀ u ∈ effects.filterMap Effect.update?, u.1.id = id) :
    (effects.foldl replay m).sessions.find? (·.id == id) =
      some ((effects.filterMap Effect.update?).foldl Session.latest held) := by
  induction effects generalizing m held with
  | nil => exact hheld
  | cons e effects ih =>
    rw [List.filterMap_cons] at hcreations
    cases hcreation : e.creation? with
    | some u => simp [hcreation] at hcreations
    | none =>
      rw [hcreation] at hcreations
      have hfirst := find?_replay hheld hcreation fun u hu => hown u (by simp [hu])
      rw [List.foldl_cons, ih hfirst hcreations fun u hu => hown u ?_]
      · cases hupdate : e.update? <;> simp [hupdate]
      · rw [List.filterMap_cons]
        split
        · exact hu
        · exact List.mem_cons_of_mem _ hu

/-- No call that succeeds switches the store off or on. -/
theorem offline_of_answer {m next : MemoryStore} {c : StoreCall} {answer : c.Answer}
    (h : m.answer c = .ok (answer, next)) : next.offline = m.offline := by
  cases c with
  | createSession | updateSession | recordPatternUsage =>
    simp only [MemoryStore.answer] at h
    split at h <;> cases h
    rfl
  | addAllowedDependency tenant package =>
    cases h
    cases tenant <;> rfl
  | _ => cases h; rfl

/-- No call switches the store off or on. -/
theorem foldl_replay_offline (m : MemoryStore) (effects : List Effect) :
    (effects.foldl replay m).offline = m.offline := by
  induction effects generalizing m with
  | nil => rfl
  | cons e effects ih =>
    rw [List.foldl_cons, ih]
    match e with
    | .model .. | .publish .. | .store _ (some _) => rfl
    | .store call none =>
      simp only [replay]
      split
      · next h => exact offline_of_answer h
      · rfl

/-- A new session is found under its name. -/
theorem find?_replay_creation {m : MemoryStore} {s : Session}
    (hfresh : ∀ other ∈ m.sessions, other.id ≠ s.id) :
    (m.replay (.store (.createSession s) none)).sessions.find? (·.id == s.id) = some s := by
  have hunknown : m.sessions.any (·.id == s.id) = false := by simpa using hfresh
  have hothers : m.sessions.find? (·.id == s.id) = none := by simpa using hfresh
  simp [replay, answer, hunknown, hothers]

end MemoryStore

/-- If the store took the last version that it was offered, it holds that version. -/
theorem Session.foldl_latest {held last : Session} {offers : List (Session × Option StoreError)}
    (h : offers.getLast? = some (last, none)) : offers.foldl Session.latest held = last := by
  obtain ⟨before, rfl⟩ := List.getLast?_eq_some_iff.mp h
  rw [List.foldl_append]
  rfl

/-- The store takes entries only from those that it is offered. -/
theorem Effect.kept_sublist (effects : List Effect) :
    (effects.filterMap kept?).Sublist (effects.filterMap logged?) := by
  induction effects with
  | nil => exact .slnil
  | cons e effects ih =>
    match e with
    | .model .. | .publish .. => exact ih
    | .store call none => cases call <;> first | exact ih | exact ih.cons_cons _
    | .store call (some failure) => cases call <;> first | exact ih | exact ih.cons _

/-- If it refuses none, it takes all that it is offered. -/
theorem Effect.kept_eq {effects : List Effect}
    (h : ∀ entry failure, Effect.store (.appendLog entry) (some failure) ∉ effects) :
    effects.filterMap kept? = effects.filterMap logged? := by
  induction effects with
  | nil => rfl
  | cons e effects ih =>
    have hrest := ih fun entry failure he => h entry failure (List.mem_cons_of_mem e he)
    match e with
    | .model .. | .publish .. => exact hrest
    | .store call none => cases call <;> first | exact hrest | exact congrArg (_ :: ·) hrest
    | .store call (some failure) =>
      cases call with
      | appendLog entry => exact absurd List.mem_cons_self (h entry failure)
      | _ => exact hrest

namespace Flight.Since

variable {w : World σ π} {created : Session} {creation : Option StoreError} {steps : List Effect}
  {f : Flight σ π}

/-- The store holds for a new session the entries that it took. -/
theorem stored_logs (h : f.Since w created creation steps)
    (hfresh : ∀ e ∈ w.store.logs, e.session ≠ created.id) :
    f.world.store.logs.filter (·.session == f.session.id) = steps.filterMap Effect.kept? := by
  have hothers : w.store.logs.filter (·.session == created.id) = [] := by
    simpa [List.filter_eq_nil_iff] using hfresh
  have hown : (steps.filterMap Effect.kept?).filter (·.session == created.id) =
      steps.filterMap Effect.kept? := by
    refine List.filter_eq_self.mpr fun e he => ?_
    simpa using h.steps.owns.entries e ((Effect.kept_sublist steps).subset he)
  rw [h.moves.store, w.store.foldl_replay_logs h.moves.routine, h.id, List.filter_append, hothers,
    List.nil_append, ← hown]
  rfl

/-- The store holds a new session as it was offered last, if it took that and the new session. -/
theorem found {last : Session} (h : f.Since w created none steps)
    (hfresh : ∀ s ∈ w.store.sessions, s.id ≠ created.id)
    (hlast : (steps.filterMap Effect.update?).getLast? = some (last, none)) :
    f.world.store.sessions.find? (·.id == f.session.id) = some last := by
  have hnew := MemoryStore.find?_replay_creation hfresh
  rw [h.moves.store, List.foldl_cons, h.id,
    MemoryStore.find?_foldl_replay hnew h.steps.owns.creations h.steps.owns.updates,
    Session.foldl_latest hlast]

/-- A store that took the session is on as long as the session is worked on. -/
theorem online_after (h : f.Since w created none steps) : f.world.store.offline = false := by
  rw [h.moves.store, MemoryStore.foldl_replay_offline]
  exact h.online rfl

end Flight.Since

/-- A call that is not refused is answered by the store. -/
theorem Work.store_eq {w : World σ π} {c : StoreCall} {answer : c.Answer} {next : MemoryStore}
    (hfault : w.faults c.method (w.callCount c.method) = false)
    (hcall : w.store.call c = .ok (answer, next)) :
    Work.store c w =
      .ok answer { w with store := next, journal := w.journal ++ [.store c none] } := by
  have hreply : w.reply c = .ok (answer, next) := by
    rw [World.reply, hfault]
    exact hcall
  simp only [Work.store, ofOutcome, World.call, hreply]
  rfl

/-- A session that the store holds is shown with the entries that the store holds for it, if neither
of the two readings fails. -/
theorem sessionDetail_eq {w : World σ π} {id : SessionId} {s : Session}
    (honline : w.store.offline = false) (hfound : w.store.sessions.find? (·.id == id) = some s)
    (hsession : w.faults .getSession (w.callCount .getSession) = false)
    (hlogs : w.faults .sessionLogs (w.callCount .sessionLogs) = false) :
    ∃ w', sessionDetail id w = .ok (some ⟨s, w.store.logs.filter (·.session == id)⟩) w' := by
  have hget : w.store.call (.getSession id) = .ok (some s, w.store) := by
    simp [MemoryStore.call, MemoryStore.answer, honline, hfound]
  let read : World σ π := { w with journal := w.journal ++ [.store (.getSession id) none] }
  have hread : read.store.call (.sessionLogs id) =
      .ok (w.store.logs.filter (·.session == id), w.store) := by
    simp [MemoryStore.call, MemoryStore.answer, honline, read]
  have hcount : read.callCount .sessionLogs = w.callCount .sessionLogs := by
    simp [World.callCount, read, Effect.isCallOf, StoreCall.method]
  rw [← hcount] at hlogs
  refine ⟨{ read with journal := read.journal ++ [.store (.sessionLogs id) none] }, ?_⟩
  rw [sessionDetail, bind_ok _ (Work.store_eq hsession hget)]
  exact bind_ok _ (Work.store_eq hlogs hread)

/-- What the store of a world holds of a session, after what a run did for it, is what a report
tells of it. -/
structure SessionReport.HeldBy (report : SessionReport) (effects : List Effect) (w : World σ π) :
    Prop where
  /-- The entries for the session are some of those that are reported, in order. -/
  entries : (w.store.logs.filter (·.session == report.session.id)).Sublist report.logs
  /-- They are all of them if none was refused. -/
  allEntries : (∀ e failure, Effect.store (.appendLog e) (some failure) ∉ effects) →
    w.store.logs.filter (·.session == report.session.id) = report.logs
  /-- The session was created once, and it was offered last as it is reported. If these two were
  taken, the session is stored as it is reported. -/
  session : ∃ created creation update,
    effects.filterMap Effect.creation? = [(created, creation)] ∧
    (effects.filterMap Effect.update?).getLast? = some (report.session, update) ∧
    (creation = none → update = none →
      w.store.call (.getSession report.session.id) = .ok (some report.session, w.store))
  /-- If nothing was refused, and nothing is when the session is looked up, the session and its log
  are shown exactly as they are reported. -/
  detail : (∀ call failure, Effect.store call (some failure) ∉ effects) →
    w.faults .getSession (w.callCount .getSession) = false →
    w.faults .sessionLogs (w.callCount .sessionLogs) = false →
    ∃ w', sessionDetail report.session.id w = .ok (some ⟨report.session, report.logs⟩) w'

/-- A run under a name that the store does not know leaves it with what is reported of the
session. -/
theorem execute_stores_report [ModelService σ] [Publisher π] (config : Config)
    (request : ComponentRequest) (w : World σ π)
    (hsessions : ∀ s ∈ w.store.sessions, s.id ≠ w.freshId.1)
    (hlogs : ∀ e ∈ w.store.logs, e.session ≠ w.freshId.1) :
    ∃ report w' effects, execute config request w = .ok report w' ∧
      w'.journal = w.journal ++ effects ∧ report.session.id = w.freshId.1 ∧
      report.HeldBy effects w' := by
  obtain ⟨f, hrun, hended⟩ := FlightWork.runToEnd_ended config request w
  have hexecute : execute config request w = .ok ⟨f.session, f.run.history⟩ f.world := by
    simp only [execute, hrun]
  rw [FlightWork.runToEnd_eq] at hrun
  obtain ⟨creation, steps, hsince⟩ := FlightWork.runAs_since hrun
  have hcreated : (Flight.start config request w).session.id = w.freshId.1 := rfl
  have hpending : (Flight.start config request w).session.status.isTerminal = false := rfl
  generalize (Flight.start config request w).session = created at hsince hcreated hpending
  rw [← hcreated] at hsessions hlogs ⊢
  obtain ⟨update, hupdate⟩ := hsince.steps.filed hpending hended.isTerminal
  refine ⟨_, _, .store (.createSession created) creation :: steps, hexecute, hsince.moves.journal,
    hsince.id, ?_⟩
  have hstored : f.world.store.logs.filter (·.session == f.session.id) =
      steps.filterMap Effect.kept? := hsince.stored_logs hlogs
  have hfound (hcreation : creation = none) (hlast : update = none) :
      f.world.store.sessions.find? (·.id == f.session.id) = some f.session := by
    subst hcreation hlast
    exact hsince.found hsessions hupdate
  have honline (hcreation : creation = none) : f.world.store.offline = false := by
    subst hcreation
    exact hsince.online_after
  constructor
  case entries =>
    dsimp only
    rw [hstored, hsince.history]
    exact Effect.kept_sublist steps
  case allEntries =>
    intro hnone
    dsimp only
    rw [hstored, hsince.history]
    exact Effect.kept_eq fun e failure he => hnone e failure (List.mem_cons_of_mem _ he)
  case session =>
    refine ⟨created, creation, update, ?_, hupdate, fun hcreation hlast => ?_⟩
    · exact congrArg ((created, creation) :: ·) hsince.steps.owns.creations
    · simp only [MemoryStore.call, honline hcreation, MemoryStore.answer, hfound hcreation hlast]
      rfl
  case detail =>
    intro hnone hsession hreading
    have hcreation : creation = none := by
      cases creation with
      | none => rfl
      | some failure => exact absurd List.mem_cons_self (hnone _ failure)
    have hlast : update = none := by
      cases update with
      | none => rfl
      | some failure =>
        obtain ⟨e, he, hlast⟩ := List.mem_filterMap.mp (List.mem_of_getLast? hupdate)
        rw [Effect.eq_of_update? hlast] at he
        exact absurd (List.mem_cons_of_mem _ he) (hnone _ failure)
    obtain ⟨w'', hdetail⟩ :=
      sessionDetail_eq (honline hcreation) (hfound hcreation hlast) hsession hreading
    refine ⟨w'', ?_⟩
    rw [hdetail, hstored, hsince.history, Effect.kept_eq fun e failure he =>
      hnone (.appendLog e) failure (List.mem_cons_of_mem _ he)]

/-- In a store that holds another session and its log, and that loses the second log entry. -/
theorem execute_stores_report_beside_other :
    let request : ComponentRequest := { tenant := "acme", user := "ann", prompt := "A button" }
    let other : Session := .new ⟨7⟩ request 3 default
    let entry : LogEntry := {
      session := ⟨7⟩, phase := .pending, level := .info, message := "Session created"
      data := .null, time := default }
    let w : World ScriptedModel MemoryPublisher := {
      store := { sessions := [other], logs := [entry] }
      faults := fun method number => method = .appendLog && number = 1
      model := {}
      publisher := { names := fun _ => "artifact" }
      regexes := { limit := 1048576 }
      journal := []
      clock := fun reading => ⟨reading, 0⟩
      readings := 0
      ids := fun number => ⟨number⟩
      begun := 0 }
    (∀ s ∈ w.store.sessions, s.id ≠ w.freshId.1) ∧ (∀ e ∈ w.store.logs, e.session ≠ w.freshId.1) ∧
      ∃ report w' effects, execute {} request w = .ok report w' ∧ w'.journal = effects ∧
        report.session.id = ⟨0⟩ ∧ report.HeldBy effects w' := by
  intro request other entry w
  have hsessions : ∀ s ∈ w.store.sessions, s.id ≠ w.freshId.1 := by
    simp [w, other, World.freshId, Session.new]
  have hlogs : ∀ e ∈ w.store.logs, e.session ≠ w.freshId.1 := by
    simp [w, entry, World.freshId]
  exact ⟨hsessions, hlogs, execute_stores_report {} request w hsessions hlogs⟩

end ArtifactPipeline
