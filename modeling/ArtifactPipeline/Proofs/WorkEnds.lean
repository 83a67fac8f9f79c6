import ArtifactPipeline.Proofs.FlightMoves
import ArtifactPipeline.Run.Generation
import ArtifactPipeline.Run.Planning

/-!
# How work on the world ends

Planning, generating and validating are work on the world that may fail. Each of them ends in one of
a few ways, and each way is described by what its effects amount to: a failure is always that of the
last operation on which the next step depended.
-/

namespace ArtifactPipeline

variable {σ π α β : Type}

/-- How work before the first validation ends, with at most a number of calls of the model. -/
inductive OpeningEnds (limit : Nat) (w : World σ π) :
    EStateM.Result Failure (World σ π) α → Prop
  | done {a : α} {w' : World σ π} {t : Tally} :
    w.Yields t w' → t.Opening limit → OpeningEnds limit w (.ok a w')
  | failed {e : Failure} {w' : World σ π} {t : Tally} (kind : GateKind) :
    w.Yields (t ++ { gates := [⟨kind, some e⟩] }) w' → t.Opening limit →
      OpeningEnds limit w (.error e w')

namespace OpeningEnds

/-- Work that goes on after other work ends as one of the two does. -/
theorem bind {m n : Nat} {x : Work σ π α} {g : α → Work σ π β} {w : World σ π}
    (hx : OpeningEnds m w (x w)) (hg : ∀ a w', OpeningEnds n w' (g a w')) :
    OpeningEnds (m + n) w ((x >>= g) w) := by
  cases hresult : x w with
  | ok a w' =>
    rw [hresult] at hx
    rw [bind_ok g hresult]
    cases hx with
    | done hyields hopening =>
      have hrest := hg a w'
      generalize g a w' = result at hrest
      cases hrest with
      | done hyields' hopening' =>
        exact .done (hyields.trans hyields') (hopening.append hopening')
      | failed kind hyields' hopening' =>
        refine .failed kind ?_ (hopening.append hopening')
        rw [Tally.append_assoc]
        exact hyields.trans hyields'
  | error e w' =>
    rw [hresult] at hx
    rw [bind_error g hresult]
    cases hx with
    | failed kind hyields hopening => exact .failed kind hyields (hopening.weaken (by omega))

/-- Work that only gives a value ends without a call of the model. -/
theorem pure (a : α) (w : World σ π) : OpeningEnds 0 w ((Pure.pure a : Work σ π α) w) :=
  .done (.refl w) .empty

end OpeningEnds

/-- The patterns are listed, or the work ends with the failure of that reading. -/
theorem listPatterns_ends (intent : Option Intent) (w : World σ π) :
    OpeningEnds 0 w (Work.store (.listPatterns intent) w) := by
  rcases Work.store_cases (.listPatterns intent) w rfl with
    ⟨answer, next, w', hresult, -, hmoves⟩ | ⟨e, w', hresult, hmoves⟩
  · rw [hresult]
    exact .done (hmoves.yields rfl) (.gate (by decide))
  · rw [hresult]
    exact .failed .patterns (t := {}) (hmoves.yields rfl) .empty

/-- The allowed packages are read, or the work ends with the failure of that reading. -/
theorem allowlist_ends (tenant : String) (w : World σ π) :
    OpeningEnds 0 w (Work.store (.allowlist tenant) w) := by
  rcases Work.store_cases (.allowlist tenant) w rfl with
    ⟨answer, next, w', hresult, -, hmoves⟩ | ⟨e, w', hresult, hmoves⟩
  · rw [hresult]
    exact .done (hmoves.yields rfl) (.gate (by decide))
  · rw [hresult]
    exact .failed .packages (t := {}) (hmoves.yields rfl) .empty

/-- A call of the model for a classification or a component is an operation on which the next step
depends. -/
theorem invoke_ends [ModelService σ] {request : ModelRequest} (hrequest : request.isRepair = false)
    (w : World σ π) : OpeningEnds 1 w (Work.invoke request w) := by
  rcases Work.invoke_cases request w with ⟨response, w', hresult, hmoves⟩ | ⟨e, w', hresult, hmoves⟩
  · have hyields := hmoves.yields rfl
    rw [tally_model _ hrequest] at hyields
    rw [hresult]
    exact .done hyields (Tally.Opening.append (.gate (by decide)) (.call hrequest))
  · have hyields := hmoves.yields rfl
    rw [tally_model _ hrequest] at hyields
    rw [hresult]
    exact .failed .model hyields (.call hrequest)

/-- The request for a classification asks for no repair. -/
theorem classificationRequest_isRepair (config : Config) (prompt : String) :
    (classificationRequest config prompt).isRepair = false := rfl

/-- Similar patterns are found, or the work ends with the failure to list the patterns. -/
theorem findSimilar_ends (intent : Intent) (w : World σ π) :
    OpeningEnds 0 w (findSimilar intent w) := by
  refine .bind (n := 0) (listPatterns_ends (some intent) w) fun sameIntent w => ?_
  split
  · exact .bind (listPatterns_ends none w) fun _ w => .pure _ w
  · exact .pure _ w

/-- A plan is made with one call of the model, or the work ends with the failure of that call or
of the reading behind it. -/
theorem makePlan_ends [ModelService σ] (config : Config) (prompt : String) (mood : Mood)
    (w : World σ π) : OpeningEnds 1 w (makePlan config prompt mood w) := by
  have hclassify : OpeningEnds 1 w (classify config prompt w) :=
    .bind (n := 0) (invoke_ends (classificationRequest_isRepair config prompt) w) fun _ w =>
      .pure _ w
  refine .bind (n := 0) hclassify fun outcome w => ?_
  exact .bind (findSimilar_ends _ w) fun _ w => .pure _ w

/-- Looking for a reference component amounts to nothing, whether it succeeds or not. -/
theorem referenceSnippet_yields (chars : Nat) (references : List PatternReference)
    (w : World σ π) : w.Yields {} (referenceSnippet chars references w).2 := by
  induction references generalizing w with
  | nil => exact .refl w
  | cons reference references ih =>
    have hcall : w.Yields {} (w.call (.getPattern reference.id)).2 := by
      rcases w.call_cases (.getPattern reference.id) rfl with ⟨_, _, -, -, hmoves⟩ | ⟨_, -, hmoves⟩
      · exact ⟨_, hmoves, rfl, rfl⟩
      · exact ⟨_, hmoves, rfl, rfl⟩
    simp only [referenceSnippet]
    split
    · exact hcall
    · exact hcall.trans (ih _)

/-- The prompt for a generation is put together, or the work ends with the failure to read the
allowed packages. -/
theorem generationPrompt_ends (config : Config) (tenant : String) (plan : Plan) (w : World σ π) :
    OpeningEnds 0 w (generationPrompt config tenant plan w) := by
  have hsnippet (w : World σ π) : OpeningEnds 0 w (modifyGet (m := Work σ π)
      (referenceSnippet config.pipeline.snippetChars plan.similarPatterns) w) :=
    .done (referenceSnippet_yields _ _ w) .empty
  exact .bind (n := 0) (allowlist_ends tenant w) fun _ w =>
    .bind (n := 0) (hsnippet w) fun _ w => .pure _ w

/-- Code is generated with one call of the model, or the work ends with the failure of that call
or of the reading before it. -/
theorem generate_ends [ModelService σ] (config : Config) (tenant : String) (plan : Plan)
    (prompt : String) (w : World σ π) :
    OpeningEnds 1 w (generate config tenant plan prompt w) := by
  refine .bind (n := 1) (generationPrompt_ends config tenant plan w) fun instructions w => ?_
  exact .bind (n := 0) (invoke_ends rfl w) fun _ w => .pure _ w

/-- How the validation of a component for a tenant ends. -/
inductive ValidationEnds (session : Option SessionId) (tenant code : String) (w : World σ π) :
    EStateM.Result Failure (World σ π) Verdict → Prop
  /-- The rules could not be read. -/
  | unruled {e : Failure} {w' : World σ π} :
    w.Yields { gates := [⟨.rules, some e⟩] } w' → ValidationEnds session tenant code w (.error e w')
  /-- The allowed packages could not be read. -/
  | unlisted {e : Failure} {w' : World σ π} :
    w.Yields { gates := [⟨.rules, none⟩, ⟨.packages, some e⟩] } w' →
      ValidationEnds session tenant code w (.error e w')
  | judged {entry : AuditEntry} {w' : World σ π} :
    w.Yields { gates := Gate.validated 1, audits := [entry] } w' → entry.session = session →
      entry.isValid = (w.assess tenant code).isValid →
      ValidationEnds session tenant code w (.ok (w.assess tenant code) w')

/-- A validation either fails with the reading that failed, or comes to the verdict that the rules
and the allowed packages of the tenant give. -/
theorem validate_ends (code : String) (session : Option SessionId) (tenant : String)
    (w : World σ π) : ValidationEnds session tenant code w (validate code session tenant w) := by
  unfold validate
  rcases Work.store_cases (.activeRules tenant) w rfl with
    ⟨rules, next, w₁, hrules, hanswer, hmoves₁⟩ | ⟨e, w₁, hrules, hmoves₁⟩
  · cases hanswer
    rw [bind_ok _ hrules]
    rcases Work.store_cases (.allowlist tenant) w₁ rfl with
      ⟨allowlist, next, w₂, hallowlist, hanswer, hmoves₂⟩ | ⟨e, w₂, hallowlist, hmoves₂⟩
    · cases hanswer
      rw [bind_ok _ hallowlist]
      have hverdict : (w₂.evaluate code (w.store.rules.filter (·.appliesTo tenant))
          (w₁.store.resolvedAllowlist tenant)).1 = w.assess tenant code := by
        rw [hmoves₁.resolvedAllowlist]
        exact Policy.evaluate_congr _ _ _ (hmoves₁.trans hmoves₂).programs
      have hevaluate := w₂.evaluate_moves code (w.store.rules.filter (·.appliesTo tenant))
        (w₁.store.resolvedAllowlist tenant)
      obtain ⟨entry, failure, haudit, hsession, hvalid⟩ :=
        World.recordAudit_moves (w₂.evaluate code (w.store.rules.filter (·.appliesTo tenant))
          (w₁.store.resolvedAllowlist tenant)).2 tenant session (w.assess tenant code)
      rw [← hverdict] at haudit
      have hjudged : ValidationEnds session tenant code w (.ok (w.assess tenant code) _) :=
        .judged ((((hmoves₁.trans hmoves₂).trans hevaluate).trans haudit).yields rfl) hsession
          hvalid
      rwa [← hverdict] at hjudged
    · rw [bind_error _ hallowlist]
      exact .unlisted ((hmoves₁.trans hmoves₂).yields rfl)
  · rw [bind_error _ hrules]
    exact .unruled (hmoves₁.yields rfl)

end ArtifactPipeline
