import ArtifactPipeline.Proofs.Streams

/-!
# Runs in lockstep

Two worlds may differ in what the work on sessions never looks at. If a relation between worlds is
kept up by everything that the work asks of a world, then two runs of one request from related
worlds do the same, step by step. All they may say differently in the log is whether a record for
human review could be stored.
-/

namespace ArtifactPipeline

open Json

variable {σ π : Type}

/-- Whether the work on sessions calls a method for its effect, before it counts the uses of
patterns and apart from the log. -/
def StoreMethod.isNote : StoreMethod → Bool
  | .createSession | .updateSession | .appendAudit | .createReview => true
  | _ => false

/-- The details of a log entry with the flag `escalated`, if they have it, taken down. -/
def Json.Value.unflagged : Value → Value
  | .obj fields =>
    .obj (fields.map fun field =>
      (field.1, if field.1 = "escalated" then .bool false else field.2))
  | value => value

/-- The entry that hands a session to a human, apart from whether that could be stored. -/
def LogEntry.unflagged (e : LogEntry) : LogEntry :=
  if e.message = "Repair budget exhausted, escalated to human review" then
    { e with data := e.data.unflagged }
  else e

/-- What the work on sessions asks of two worlds at once. The relation `R` is kept up by everything
up to the end of a session; counting the uses of patterns, which comes last, keeps up `S`. -/
structure Lockstep [ModelService σ] [Publisher π] (R S : World σ π → World σ π → Prop) : Prop where
  now {w₁ w₂ : World σ π} : R w₁ w₂ → Matches R w₁.now w₂.now
  freshId {w₁ w₂ : World σ π} : R w₁ w₂ → Matches R w₁.freshId w₂.freshId
  read {w₁ w₂ : World σ π} (c : StoreCall) : c.method.isRead = true → R w₁ w₂ →
    Matches R (w₁.call c) (w₂.call c)
  note {w₁ w₂ : World σ π} (c : StoreCall) : c.method.isNote = true → R w₁ w₂ →
    R (w₁.write c).2 (w₂.write c).2
  log {w₁ w₂ : World σ π} {e₁ e₂ : LogEntry} : e₁.unflagged = e₂.unflagged → R w₁ w₂ →
    R (w₁.write (.appendLog e₁)).2 (w₂.write (.appendLog e₂)).2
  invoke {w₁ w₂ : World σ π} (request : ModelRequest) : R w₁ w₂ →
    Matches R (w₁.invoke request) (w₂.invoke request)
  publish {w₁ w₂ : World σ π} (session : Session) (code : String) : R w₁ w₂ →
    Matches R (w₁.publish session code) (w₂.publish session code)
  evaluate {w₁ w₂ : World σ π} (code : String) (rules : List Rule) (allowlist : List String) :
    R w₁ w₂ → Matches R (w₁.evaluate code rules allowlist) (w₂.evaluate code rules allowlist)
  finish {w₁ w₂ : World σ π} : R w₁ w₂ → S w₁ w₂
  count {w₁ w₂ : World σ π} (id : String) (success : Bool) : S w₁ w₂ →
    S (w₁.write (.recordPatternUsage id success)).2 (w₂.write (.recordPatternUsage id success)).2

/-- The leeway of two runs in lockstep, in one way of working: nothing but whether records for human
review can be stored. -/
def Leeway.lockstep (entry : Entry) : Leeway where
  left := entry
  right := entry
  exact := True
  agree := False

/-- Entries that are alike in lockstep are the same but for the flag. -/
theorem LogEntry.Alike.unflagged {entry : Entry} {e₁ e₂ : LogEntry}
    (h : e₁.Alike (.lockstep entry) e₂) : e₁.unflagged = e₂.unflagged := by
  obtain ⟨hsession, htime⟩ := h.exact trivial
  have hphase : e₂.phase = e₁.phase := h.phase.trans (Leeway.status_of_same rfl _)
  have hlevel := h.level
  have hwords := h.words
  obtain ⟨session₁, phase₁, level₁, message₁, data₁, time₁⟩ := e₁
  obtain ⟨session₂, phase₂, level₂, message₂, data₂, time₂⟩ := e₂
  cases hsession
  cases hphase
  cases hlevel
  cases htime
  cases hwords with
  | same | announced => rfl
  | brokeDown phase error => rw [Leeway.status_of_same rfl]
  | accepted _ hname => rw [hname trivial]
  | gaveUp => simp [LogEntry.unflagged, Value.unflagged]

/-- Logs of runs in lockstep are the same but for the flag that tells of an escalation. -/
theorem LogEntry.map_unflagged_of_alike {entry : Entry} {logs₁ logs₂ : List LogEntry}
    (h : List.Forall₂ (LogEntry.Alike (.lockstep entry)) logs₁ logs₂) :
    logs₁.map LogEntry.unflagged = logs₂.map LogEntry.unflagged := by
  induction h with
  | nil => rfl
  | cons he _ ih => rw [List.map_cons, List.map_cons, he.unflagged, ih]

namespace Lockstep

variable [ModelService σ] [Publisher π] {R S : World σ π → World σ π → Prop}

/-- Worlds in lockstep are in tandem. -/
theorem tandem (L : Lockstep R S) (entry : Entry) : Tandem (.lockstep entry) R S where
  working := {
    now h := (L.now h).after.2
    moment h _ := (L.now h).after.1
    log he h := L.log he.unflagged h
    update hs h := by
      rw [hs.eq trivial rfl]
      exact L.note _ rfl h }
  finish := L.finish
  freshId h := (L.freshId h).after.2
  name h _ := (L.freshId h).after.1
  create hs h := by
    rw [hs.eq trivial rfl]
    exact L.note _ rfl h
  read := L.read
  invoke := L.invoke
  evaluate := L.evaluate
  audit he h := by
    rw [he.eq trivial]
    exact L.note _ rfl h
  review hr h := by
    rw [hr.eq trivial]
    exact L.note _ rfl h
  filed _ _ hagree := hagree.elim
  count := L.count

/-- Worlds in lockstep publish alike. -/
theorem publishesAlike (L : Lockstep R S) (entry : Entry) :
    PublishesAlike (.lockstep entry) R R := by
  intro s₁ s₂ w₁ w₂ code hs _ _ h
  obtain ⟨hresult, hworld⟩ := (L.publish s₁ code h).after
  rw [hs.eq trivial rfl, hresult]
  exact ⟨rfl, fun _ => rfl, hworld⟩

end Lockstep

/-- Runs of one request in two worlds that the work cannot tell apart end with the same session and,
but for the flag of an entry, with the same log. -/
theorem Entry.run_lockstep [ModelService σ] [Publisher π] {R S : World σ π → World σ π → Prop}
    (L : Lockstep R S) (entry : Entry) (config : Config) (request : ComponentRequest)
    {w₁ w₂ w₁' : World σ π} {report₁ : SessionReport} (h : R w₁ w₂)
    (hrun : entry.run config request w₁ = some (report₁, w₁')) :
    ∃ report₂ w₂', entry.run config request w₂ = some (report₂, w₂') ∧
      report₂.session = report₁.session ∧
      report₂.logs.map LogEntry.unflagged = report₁.logs.map LogEntry.unflagged ∧ S w₁' w₂' := by
  have T := L.tandem entry
  obtain ⟨f₁, f₂, hrun₁, hrun₂, hlanded⟩ := T.runs config request h
  obtain ⟨g₁, hg₁, hentry₁⟩ := entry.run_eq config request w₁
  obtain ⟨g₂, hg₂, hentry₂⟩ := entry.run_eq config request w₂
  cases hrun₁.symm.trans hg₁
  cases hrun₂.symm.trans hg₂
  cases hrun.symm.trans hentry₁
  have halike := hlanded.alike T T.working T.finish (L.publishesAlike entry)
  exact ⟨_, _, hentry₂, halike.session.eq trivial rfl,
    (LogEntry.map_unflagged_of_alike halike.history).symm, halike.world⟩

end ArtifactPipeline
