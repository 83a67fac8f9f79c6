import ArtifactPipeline.Proofs.Leeway
import ArtifactPipeline.Proofs.Relational

/-!
# What two runs ask of their worlds

Two runs are worked on side by side, each in its own world. A tandem is a relation between the two
worlds that is kept up by everything that alike sessions ask of them. All work on the world keeps it
up as well: planning, generating, validating and repairing come to the same results in related
worlds.
-/

namespace ArtifactPipeline

variable {σ π α : Type}

/-- A relation between worlds that is kept up while alike sessions move, are logged and are
stored. -/
structure Pace (k : Leeway) (R : World σ π → World σ π → Prop) : Prop where
  now {w₁ w₂ : World σ π} : R w₁ w₂ → R w₁.now.2 w₂.now.2
  moment {w₁ w₂ : World σ π} : R w₁ w₂ → k.exact → w₂.now.1 = w₁.now.1
  log {w₁ w₂ : World σ π} {e₁ e₂ : LogEntry} : e₁.Alike k e₂ → R w₁ w₂ →
    R (w₁.write (.appendLog e₁)).2 (w₂.write (.appendLog e₂)).2
  update {w₁ w₂ : World σ π} {s₁ s₂ : Session} : s₁.Alike k s₂ → R w₁ w₂ →
    R (w₁.write (.updateSession s₁)).2 (w₂.write (.updateSession s₂)).2

/-- What alike sessions ask of two worlds, publishing apart. The relation `R` is kept up until the
sessions have ended; `S` holds after that, while the uses of patterns are counted. -/
structure Tandem [ModelService σ] (k : Leeway) (R S : World σ π → World σ π → Prop) : Prop where
  working : Pace k R
  finish {w₁ w₂ : World σ π} : R w₁ w₂ → S w₁ w₂
  freshId {w₁ w₂ : World σ π} : R w₁ w₂ → R w₁.freshId.2 w₂.freshId.2
  name {w₁ w₂ : World σ π} : R w₁ w₂ → k.exact → w₂.freshId.1 = w₁.freshId.1
  create {w₁ w₂ : World σ π} {s₁ s₂ : Session} : s₁.Alike k s₂ → R w₁ w₂ →
    R (w₁.write (.createSession s₁)).2 (w₂.write (.createSession s₂)).2
  read {w₁ w₂ : World σ π} (c : StoreCall) : c.method.isRead = true → R w₁ w₂ →
    Matches R (w₁.call c) (w₂.call c)
  invoke {w₁ w₂ : World σ π} (request : ModelRequest) : R w₁ w₂ →
    Matches R (w₁.invoke request) (w₂.invoke request)
  evaluate {w₁ w₂ : World σ π} (code : String) (rules : List Rule) (allowlist : List String) :
    R w₁ w₂ → Matches R (w₁.evaluate code rules allowlist) (w₂.evaluate code rules allowlist)
  audit {w₁ w₂ : World σ π} {e₁ e₂ : AuditEntry} : e₁.Alike k e₂ → R w₁ w₂ →
    R (w₁.write (.appendAudit e₁)).2 (w₂.write (.appendAudit e₂)).2
  review {w₁ w₂ : World σ π} {r₁ r₂ : ReviewRecord} : r₁.Alike k r₂ → R w₁ w₂ →
    R (w₁.write (.createReview r₁)).2 (w₂.write (.createReview r₂)).2
  filed {w₁ w₂ : World σ π} {r₁ r₂ : ReviewRecord} : r₁.Alike k r₂ → R w₁ w₂ → k.agree →
    (w₂.write (.createReview r₂)).1 = (w₁.write (.createReview r₁)).1
  count {w₁ w₂ : World σ π} (id : String) (success : Bool) : S w₁ w₂ →
    S (w₁.write (.recordPatternUsage id success)).2 (w₂.write (.recordPatternUsage id success)).2

/-- Work that is told as an outcome beside the world after it keeps up a relation if this step
does. -/
theorem Keeps.ofOutcome {R : World σ π → World σ π → Prop}
    {f : World σ π → Except Failure α × World σ π}
    (h : ∀ w₁ w₂, R w₁ w₂ → Matches R (f w₁) (f w₂)) :
    Keeps R (fun _ => R) (Work.ofOutcome f) := by
  intro w₁ w₂ hw
  have hmatches := h w₁ w₂ hw
  unfold Work.ofOutcome
  generalize f w₁ = p₁ at hmatches ⊢
  generalize f w₂ = p₂ at hmatches ⊢
  cases hmatches with
  | @intro result _ _ ht =>
    cases result with
    | ok a => exact .ok ht
    | error e => exact .error ht

namespace Tandem

variable [ModelService σ] {k : Leeway} {R S : World σ π → World σ π → Prop}

/-- The same reading of the store is answered alike in both worlds. -/
theorem keeps_store (T : Tandem k R S) (c : StoreCall) (hc : c.method.isRead = true) :
    Keeps R (fun _ => R) (Work.store c : Work σ π c.Answer) := by
  refine .ofOutcome fun w₁ w₂ hw => ?_
  have hmatches := T.read c hc hw
  generalize w₁.call c = p₁ at hmatches ⊢
  generalize w₂.call c = p₂ at hmatches ⊢
  cases hmatches with
  | intro ht => exact .intro ht

/-- The same request to the model is answered alike in both worlds. -/
theorem keeps_invoke (T : Tandem k R S) (request : ModelRequest) :
    Keeps R (fun _ => R) (Work.invoke request : Work σ π ModelResponse) :=
  .ofOutcome fun _ _ hw => T.invoke request hw

/-- The same similar patterns are found in both worlds. -/
theorem keeps_findSimilar (T : Tandem k R S) (intent : Intent) :
    Keeps R (fun _ => R) (findSimilar intent : Work σ π (List PatternReference)) := by
  refine .bind (T.keeps_store _ rfl) fun sameIntent => ?_
  split
  · exact .bind (T.keeps_store _ rfl) fun _ => .pure fun _ _ h => h
  · exact .pure fun _ _ h => h

/-- The same plan is made in both worlds. -/
theorem keeps_makePlan (T : Tandem k R S) (config : Config) (prompt : String) (mood : Mood) :
    Keeps R (fun _ => R) (makePlan config prompt mood : Work σ π PlanningOutcome) := by
  have hclassify : Keeps R (fun _ => R) (classify config prompt : Work σ π ClassificationOutcome) :=
    .bind (T.keeps_invoke _) fun _ => .pure fun _ _ h => h
  exact .bind hclassify fun _ => .bind (T.keeps_findSimilar _) fun _ => .pure fun _ _ h => h

/-- The same code is shown for reference in both worlds. -/
theorem matches_referenceSnippet (T : Tandem k R S) (chars : Nat)
    (references : List PatternReference) {w₁ w₂ : World σ π} (h : R w₁ w₂) :
    Matches R (referenceSnippet chars references w₁) (referenceSnippet chars references w₂) := by
  induction references generalizing w₁ w₂ with
  | nil => exact .intro h
  | cons reference references ih =>
    have hmatches := T.read (.getPattern reference.id) rfl h
    simp only [referenceSnippet]
    generalize w₁.call (.getPattern reference.id) = p₁ at hmatches ⊢
    generalize w₂.call (.getPattern reference.id) = p₂ at hmatches ⊢
    cases hmatches with
    | intro ht =>
      dsimp only
      split
      · exact .intro ht
      · exact ih ht

/-- The same code is generated in both worlds. -/
theorem keeps_generate (T : Tandem k R S) (config : Config) (tenant : String) (plan : Plan)
    (prompt : String) :
    Keeps R (fun _ => R) (generate config tenant plan prompt : Work σ π Generated) := by
  have hprompt : Keeps R (fun _ => R) (generationPrompt config tenant plan : Work σ π String) := by
    refine .bind (T.keeps_store _ rfl) fun _ => .bind ?_ fun _ => .pure fun _ _ h => h
    exact .of_modifyGet fun _ _ h => T.matches_referenceSnippet _ _ h
  exact .bind hprompt fun _ => .bind (T.keeps_invoke _) fun _ => .pure fun _ _ h => h

/-- Alike verdicts are recorded in both worlds, whether they take the record or not. -/
theorem recordAudit (T : Tandem k R S) (tenant : String) {id₁ id₂ : SessionId}
    (hid : k.exact → id₂ = id₁) (verdict : Verdict) {w₁ w₂ : World σ π} (h : R w₁ w₂) :
    R (w₁.recordAudit tenant (some id₁) verdict) (w₂.recordAudit tenant (some id₂) verdict) := by
  refine T.audit ⟨rfl, rfl, fun hexact => ⟨?_, ?_⟩⟩ (T.working.now h)
  · rw [hid hexact]
  · exact T.working.moment h hexact

/-- Validations of one component under the names of two sessions come to the same verdict. -/
theorem validate_agrees (T : Tandem k R S) (code tenant : String) {id₁ id₂ : SessionId}
    (hid : k.exact → id₂ = id₁) {w₁ w₂ : World σ π} (h : R w₁ w₂) :
    Agrees R (fun _ => R) (validate code (some id₁) tenant w₁)
      (validate code (some id₂) tenant w₂) := by
  refine (T.keeps_store (.activeRules tenant) rfl w₁ w₂ h).bind fun rules u₁ u₂ hu => ?_
  refine (T.keeps_store (.allowlist tenant) rfl u₁ u₂ hu).bind fun allowlist v₁ v₂ hv => ?_
  have hevaluate : Keeps R (fun _ => R)
      (modifyGet (·.evaluate code rules allowlist) : Work σ π Verdict) :=
    .of_modifyGet fun _ _ h => T.evaluate code rules allowlist h
  exact (hevaluate v₁ v₂ hv).bind fun verdict _ _ ht => .ok (T.recordAudit tenant hid verdict ht)

/-- Alike sessions that are put before a human stay in related worlds. -/
theorem escalate (T : Tandem k R S) {s₁ s₂ : Session} (hs : s₁.Alike k s₂) (verdict : Verdict)
    {w₁ w₂ : World σ π} (h : R w₁ w₂) :
    R (ArtifactPipeline.escalate s₁ verdict w₁).2 (ArtifactPipeline.escalate s₂ verdict w₂).2 ∧
      (k.agree → (ArtifactPipeline.escalate s₂ verdict w₂).1 =
        (ArtifactPipeline.escalate s₁ verdict w₁).1) := by
  let record (s : Session) (w : World σ π) : ReviewRecord := {
    session := s.id
    tenant := s.tenant
    reason := Text.join ", " verdict.failed
    attempts := s.attempts
    code := s.code
    time := w.now.1 }
  have hrecord : (record s₁ w₁).Alike k (record s₂ w₂) := by
    refine ⟨?_, fun hexact => ⟨(hs.exact hexact).1, T.working.moment h hexact⟩⟩
    simp only [record]
    rw [hs.same]
  exact ⟨T.review hrecord (T.working.now h), T.filed hrecord (T.working.now h)⟩

/-- A reply to a repair request gives the same for alike sessions, and counts for both or for
neither. -/
theorem settleRepair_alike (t : RepairTask) (response : ModelResponse) {s₁ s₂ : Session}
    (hs : s₁.Alike k s₂) :
    ∃ outcome attempts, settleRepair t response s₁ = (outcome, { s₁ with attempts }) ∧
      settleRepair t response s₂ = (outcome, { s₂ with attempts }) := by
  obtain ⟨hsame, -, -⟩ := hs
  generalize s₂.id = id, s₂.artifactId = artifactId, s₂.timeline = timeline at hsame
  subst hsame
  simp only [settleRepair, Session.recordAttempt?, Leeway.isTerminal_status]
  by_cases hcode : (Component.extractCode response.content.toList).isEmpty = true
  · simp only [if_pos hcode]
    exact ⟨_, s₁.attempts, rfl, rfl⟩
  · by_cases hleft : (s₁.status.isTerminal || s₁.attempts ≥ s₁.maxAttempts) = true
    · simp only [if_neg hcode, if_pos hleft]
      exact ⟨_, s₁.attempts, rfl, rfl⟩
    · simp only [if_neg hcode, if_neg hleft]
      exact ⟨_, s₁.attempts + 1, rfl, rfl⟩

/-- Asking for one repair of alike sessions has the same outcome. -/
theorem attemptRepair (T : Tandem k R S) (config : Config) (t : RepairTask) {s₁ s₂ : Session}
    (hs : s₁.Alike k s₂) {w₁ w₂ : World σ π} (h : R w₁ w₂) :
    ∃ outcome attempts v₁ v₂,
      ArtifactPipeline.attemptRepair config t s₁ w₁ = ((outcome, { s₁ with attempts }), v₁) ∧
      ArtifactPipeline.attemptRepair config t s₂ w₂ = ((outcome, { s₂ with attempts }), v₂) ∧
      R v₁ v₂ := by
  have hrequest : t.request config s₂.plan = t.request config s₁.plan := by rw [hs.plan]
  have hmatches := T.invoke (t.request config s₁.plan) h
  unfold ArtifactPipeline.attemptRepair
  rw [hrequest]
  generalize w₁.invoke (t.request config s₁.plan) = p₁ at hmatches ⊢
  generalize w₂.invoke (t.request config s₁.plan) = p₂ at hmatches ⊢
  cases hmatches with
  | @intro result v₁ v₂ hv =>
    cases result with
    | error e =>
      refine ⟨t.unsolved e.message, s₁.attempts, v₁, v₂, rfl, ?_, hv⟩
      rw [← hs.attempts]
    | ok response =>
      obtain ⟨outcome, attempts, h₁, h₂⟩ := settleRepair_alike t response hs
      exact ⟨outcome, attempts, v₁, v₂, congrArg (·, v₁) h₁, congrArg (·, v₂) h₂, hv⟩

end Tandem

end ArtifactPipeline
