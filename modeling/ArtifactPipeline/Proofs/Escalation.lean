import ArtifactPipeline.Proofs.Lockstep

/-!
# Escalation

A session is put before a human exactly if it is rejected with no attempt left, and then once.
Worlds that differ in whether the records for human review can be stored run in lockstep, so whether
that fails shows nowhere but in the flag of the log entry that tells it.
-/

namespace ArtifactPipeline

open Json

variable {σ π α : Type}

/-- The flag is taken off once. -/
theorem Json.Value.unflagged_unflagged (value : Value) :
    value.unflagged.unflagged = value.unflagged := by
  cases value with
  | obj fields =>
    simp only [unflagged, List.map_map]
    congr 2
    funext field
    by_cases hname : field.1 = "escalated" <;> simp [hname]
  | _ => rfl

/-- The flag of a log entry is taken off once. -/
@[simp] theorem LogEntry.unflagged_unflagged (e : LogEntry) :
    e.unflagged.unflagged = e.unflagged := by
  by_cases hmessage : e.message = "Repair budget exhausted, escalated to human review"
  · simp [unflagged, hmessage, Json.Value.unflagged_unflagged]
  · simp [unflagged, hmessage]

/-- A store apart from its records for human review and the flag of log entries. -/
def MemoryStore.unescalated (m : MemoryStore) : MemoryStore :=
  { m with logs := m.logs.map LogEntry.unflagged, reviews := [] }

/-- An effect apart from whether a record for human review could be stored. -/
def Effect.unescalated : Effect → Effect
  | store (.appendLog e) failure => store (.appendLog e.unflagged) failure
  | store (.createReview record) _ => store (.createReview record) none
  | e => e

/-- A world apart from whether records for human review can be and were stored. -/
def World.unescalated (w : World σ π) : World σ π :=
  { w with
    store := w.store.unescalated
    faults := fun method number => method != .createReview && w.faults method number
    journal := w.journal.map Effect.unescalated }

/-- A world in which other calls that store records for human review fail. -/
def World.withReviewFaults (w : World σ π) (faults : Nat → Bool) : World σ π :=
  { w with
    faults := fun method number =>
      if method = .createReview then faults number else w.faults method number }

/-- What tells about reviews is taken off a store once. -/
@[simp] theorem MemoryStore.unescalated_unescalated (m : MemoryStore) :
    m.unescalated.unescalated = m.unescalated := by
  simp [unescalated]

/-- What tells about reviews is taken off an effect once. -/
@[simp] theorem Effect.unescalated_unescalated (e : Effect) :
    e.unescalated.unescalated = e.unescalated := by
  match e with
  | .store call failure => cases call <;> simp [unescalated]
  | .model .. | .publish .. => rfl

/-- What the store answers does not depend on the records for human review. -/
theorem MemoryStore.call_unescalated (m : MemoryStore) {c : StoreCall}
    (hc : c.method.isRoutine = true) :
    (m.unescalated.call c).map (fun p => (p.1, p.2.unescalated)) =
      (m.call c).map (fun p => (p.1, p.2.unescalated)) := by
  have hoffline : m.unescalated.offline = m.offline := rfl
  simp only [MemoryStore.call, hoffline]
  split
  · rfl
  · cases c with
    | createSession session =>
      cases hknown : m.sessions.any (·.id == session.id) <;>
        simp [answer, unescalated, Except.map, hknown]
    | updateSession session =>
      cases hfound : replaceFirst? (·.id == session.id) (fun _ => session) m.sessions <;>
        simp [answer, unescalated, Except.map, hfound]
    | recordPatternUsage id success =>
      cases hfound : replaceFirst? (·.id == id) (·.count success) m.patterns <;>
        simp [answer, unescalated, Except.map, hfound]
    | allowlist => simp [answer, unescalated, Except.map, resolvedAllowlist, tenantAllowlist]
    | appendLog | listPatterns | getPattern | activeRules | appendAudit | createReview =>
      simp [answer, unescalated, Except.map]
    | getSession | listSessions | sessionLogs | savePattern | upsertRule
    | addAllowedDependency => cases hc

/-- Calls are counted the same whether reviews could be stored or not. -/
theorem World.callCount_unescalated (w : World σ π) (method : StoreMethod) :
    w.unescalated.callCount method = w.callCount method := by
  have hcall (e : Effect) : e.unescalated.isCallOf method = e.isCallOf method := by
    match e with
    | .store call failure => cases call <;> rfl
    | .model .. | .publish .. => rfl
  simp only [callCount, unescalated, List.countP_map, Function.comp_def, hcall]

/-- Calls other than for a review get the same reply whether reviews could be stored or not. -/
theorem World.reply_unescalated (w : World σ π) {c : StoreCall} (hc : c.method.isRoutine = true)
    (hreview : c.method ≠ .createReview) :
    (w.unescalated.reply c).map (fun p => (p.1, p.2.unescalated)) =
      (w.reply c).map (fun p => (p.1, p.2.unescalated)) := by
  have hfaults (number : Nat) :
      w.unescalated.faults c.method number = w.faults c.method number := by
    simp [unescalated, hreview]
  simp only [reply, callCount_unescalated, hfaults]
  split
  · rfl
  · exact w.store.call_unescalated hc

/-- No call but the one that stores a record for human review tells worlds apart that are the same
apart from those records. -/
theorem World.call_unescalated (w : World σ π) {c : StoreCall} (hc : c.method.isRoutine = true)
    (hreview : c.method ≠ .createReview) :
    (w.unescalated.call c).1 = (w.call c).1 ∧
      (w.unescalated.call c).2.unescalated = (w.call c).2.unescalated := by
  have hreply := w.reply_unescalated hc hreview
  simp only [call]
  cases h₁ : w.unescalated.reply c with
  | ok p₁ =>
    cases h₂ : w.reply c with
    | ok p₂ =>
      simp only [h₁, h₂, Except.map, Except.ok.injEq, Prod.mk.injEq] at hreply
      simp [unescalated, hreply]
    | error e₂ => simp [h₁, h₂, Except.map] at hreply
  | error e₁ =>
    cases h₂ : w.reply c with
    | ok p₂ => simp [h₁, h₂, Except.map] at hreply
    | error e₂ =>
      simp only [h₁, h₂, Except.map, Except.error.injEq] at hreply
      simp [unescalated, hreply]

/-- A review that is asked for leaves nothing but the request, granted or not. -/
theorem World.write_review_unescalated (w : World σ π) (record : ReviewRecord) :
    (w.write (.createReview record)).2.unescalated =
      { w.unescalated with
        journal := w.unescalated.journal ++ [.store (.createReview record) none] } := by
  simp only [write, call]
  cases hreply : w.reply (.createReview record) with
  | ok p =>
    obtain ⟨answer, next⟩ := p
    have hanswer := answer_of_reply hreply
    cases hanswer
    simp [unescalated, MemoryStore.unescalated, Effect.unescalated]
  | error e => simp [unescalated, Effect.unescalated]

/-- Log entries that differ at most in the flag lead to worlds that are the same apart from it. -/
theorem World.write_log_unescalated (w : World σ π) {e₁ e₂ : LogEntry}
    (he : e₁.unflagged = e₂.unflagged) :
    (w.write (.appendLog e₁)).2.unescalated = (w.write (.appendLog e₂)).2.unescalated := by
  cases hfault : w.faults .appendLog (w.callCount .appendLog) <;>
    cases hoffline : w.store.offline <;>
    simp [write, call, reply, StoreCall.method, MemoryStore.call, MemoryStore.answer, hfault,
      hoffline, unescalated, MemoryStore.unescalated, Effect.unescalated, he]

/-- Two worlds are the same apart from whether records for human review can be and were stored. -/
def World.SameButReviews (w₁ w₂ : World σ π) : Prop := w₁.unescalated = w₂.unescalated

/-- What a world does as it would do it apart from the records for human review, worlds do alike
that are the same apart from those records. -/
theorem matches_of_unescalated (op : World σ π → α × World σ π) (hop : ∀ w,
    (op w.unescalated).1 = (op w).1 ∧ (op w.unescalated).2.unescalated = (op w).2.unescalated)
    {w₁ w₂ : World σ π} (h : w₁.SameButReviews w₂) :
    Matches World.SameButReviews (op w₁) (op w₂) := by
  obtain ⟨hresult₁, hworld₁⟩ := hop w₁
  obtain ⟨hresult₂, hworld₂⟩ := hop w₂
  rw [h] at hresult₁ hworld₁
  exact .of_eq (hresult₁.symm.trans hresult₂) (hworld₁.symm.trans hworld₂)

/-- Writing something else keeps worlds the same apart from reviews. -/
theorem World.SameButReviews.write {w₁ w₂ : World σ π} {c : StoreCall}
    (hc : c.method.isRoutine = true) (hreview : c.method ≠ .createReview)
    (h : w₁.SameButReviews w₂) : (w₁.write c).2.SameButReviews (w₂.write c).2 := by
  have h₁ := (w₁.call_unescalated hc hreview).2
  have h₂ := (w₂.call_unescalated hc hreview).2
  rw [h] at h₁
  exact h₁.symm.trans h₂

/-- Worlds that are the same apart from the records for human review run in lockstep. -/
theorem lockstep_reviews [ModelService σ] [Publisher π] :
    Lockstep (@World.SameButReviews σ π) World.SameButReviews where
  now := matches_of_unescalated World.now fun w => ⟨rfl, by simp [World.now, World.unescalated]⟩
  freshId := matches_of_unescalated World.freshId fun w =>
    ⟨rfl, by simp [World.freshId, World.unescalated]⟩
  read c hc := by
    refine matches_of_unescalated (·.call c) fun w => w.call_unescalated ?_ ?_
    · cases c with
      | listPatterns | getPattern | activeRules | allowlist => rfl
      | _ => cases hc
    · intro hreview
      rw [hreview] at hc
      cases hc
  note c hc h := by
    cases c with
    | createReview record =>
      unfold World.SameButReviews at h ⊢
      rw [World.write_review_unescalated, World.write_review_unescalated, h]
    | createSession | updateSession | appendAudit => exact h.write rfl (by simp [StoreCall.method])
    | _ => cases hc
  log he h := by
    unfold World.SameButReviews
    rw [World.write_log_unescalated _ he]
    exact h.write rfl (by simp [StoreCall.method])
  invoke request := matches_of_unescalated (·.invoke request) fun w =>
    ⟨rfl, by simp [World.invoke, World.unescalated]⟩
  publish session code := matches_of_unescalated (·.publish session code) fun w =>
    ⟨rfl, by simp [World.publish, World.unescalated]⟩
  evaluate code rules allowlist := matches_of_unescalated (·.evaluate code rules allowlist) fun w =>
    ⟨rfl, by simp [World.evaluate, World.unescalated]⟩
  finish h := h
  count id success h := h.write rfl (by simp [StoreCall.method])

/-- A world with other faults is the same apart from the records for human review. -/
theorem World.withReviewFaults_same (w : World σ π) (faults : Nat → Bool) :
    w.SameButReviews (w.withReviewFaults faults) := by
  have hfaults : (fun method number => method != .createReview && w.faults method number) =
      fun method number => method != .createReview &&
        (if method = .createReview then faults number else w.faults method number) := by
    funext method number
    by_cases hmethod : method = .createReview <;> simp [hmethod]
  simp only [SameButReviews, unescalated, withReviewFaults, hfaults]

/-- A course puts one record before a human if it ends with a rejection and no attempt left, and
none otherwise. -/
theorem Course.reviews {judge : String → Verdict} {limit : Nat} {s : Session} {t : Tally}
    (h : Course judge limit s t) :
    (s.status = .rejected ∧ s.attempts = limit ∧ ∃ record verdict, t.reviews = [record] ∧
      s.verdict = some verdict ∧ record.Describes s verdict) ∨
    ¬ (s.status = .rejected ∧ s.attempts = limit) ∧ t.reviews = [] := by
  obtain ⟨hopening, hrepairs, -, hlast⟩ := h
  simp only [Tally.reviews_append, hopening.reviews, hrepairs.reviews, List.nil_append]
  cases hlast with
  | broken _ _ hstatus | completed hstatus =>
    refine Or.inr ⟨?_, rfl⟩
    rintro ⟨hrejected, -⟩
    rw [hstatus] at hrejected
    cases hrejected
  | @exhausted code entry record hstatus hjudged _ hlimit hrecord =>
    exact Or.inl ⟨hstatus, hlimit, record, judge code, rfl, hjudged.verdict, hrecord⟩
  | unrepaired hstatus _ _ hleft =>
    refine Or.inr ⟨?_, rfl⟩
    rintro ⟨-, hlimit⟩
    omega

/-- A run puts its session before a human once if it ends rejected with no attempt left, and never
otherwise. The record tells the session as it ended, with the rules that its last verdict found
violated. Which calls for human review fail makes no difference to the run but for the flag of the
log entry that tells it. -/
theorem Entry.run_escalates [ModelService σ] [Publisher π] (entry : Entry) (config : Config)
    (request : ComponentRequest) (w : World σ π) :
    ∃ report w' effects, entry.run config request w = some (report, w') ∧
      w'.journal = w.journal ++ effects ∧
      let s := report.session
      let limit := config.pipeline.maxAttempts
      let reviews := effects.filterMap Effect.review?
      (s.status = .rejected ∧ s.attempts = limit → ∃ record verdict, reviews = [record] ∧
        s.verdict = some verdict ∧ record.session = s.id ∧ record.tenant = s.tenant ∧
        record.attempts = limit ∧ record.code = s.code ∧
        record.reason = Text.join ", " verdict.failed) ∧
      (¬ (s.status = .rejected ∧ s.attempts = limit) → reviews = []) ∧
      ∀ faults, ∃ report' w'', entry.run config request (w.withReviewFaults faults) =
          some (report', w'') ∧
        report'.session = s ∧
        report'.logs.map LogEntry.unflagged = report.logs.map LogEntry.unflagged ∧
        w''.unescalated = w'.unescalated := by
  obtain ⟨report, w', effects, hrun, hmoves, -, hcourse⟩ := entry.run_course config request w
  have hlockstep (faults : Nat → Bool) := entry.run_lockstep lockstep_reviews config request
    (w.withReviewFaults_same faults) hrun
  have hreviews : effects.filterMap Effect.review? = (tally effects).reviews := rfl
  refine ⟨report, w', effects, hrun, hmoves.journal, ?_⟩
  dsimp only
  rw [hreviews]
  refine ⟨?_, ?_, fun faults => ?_⟩
  · rintro ⟨hstatus, hlimit⟩
    rcases hcourse.reviews with ⟨-, -, record, verdict, hone, hverdict, hrecord⟩ | ⟨hnot, -⟩
    · obtain ⟨hsession, htenant, hattempts, hcode, hreason⟩ := hrecord
      exact ⟨record, verdict, hone, hverdict, hsession, htenant, hattempts.trans hlimit, hcode,
        hreason⟩
    · exact absurd ⟨hstatus, hlimit⟩ hnot
  · intro hnot
    rcases hcourse.reviews with ⟨hstatus, hlimit, -⟩ | ⟨-, hnone⟩
    · exact absurd ⟨hstatus, hlimit⟩ hnot
    · exact hnone
  · obtain ⟨report', w'', hrun', hsession, hlogs, hworld⟩ := hlockstep faults
    exact ⟨report', w'', hrun', hsession, hlogs, hworld.symm⟩

end ArtifactPipeline
