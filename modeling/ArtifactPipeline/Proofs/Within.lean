import ArtifactPipeline.Proofs.FlightMoves
import ArtifactPipeline.Run.Generation
import ArtifactPipeline.Run.Planning

/-!
# Work of limited effect

Work on the world is limited to a kind of effects if each thing it does is of that kind, also when
it breaks off. Work in several parts is so limited if all its parts are. Each piece of work on the
world is described here by the calls that it may make.
-/

namespace ArtifactPipeline

variable {σ π ε τ α β : Type}

/-- The state after some work, whether it failed or not. -/
def endState : EStateM.Result ε τ α → τ
  | .ok _ s => s
  | .error _ s => s

namespace World

variable {p : Effect → Bool}

/-- The work on a session takes a world to another one by effects of some kind. -/
def Within (p : Effect → Bool) (w w' : World σ π) : Prop :=
  ∃ effects, w.Moves effects w' ∧ ∀ e ∈ effects, p e = true

/-- Work that does nothing has no effect of any other kind. -/
theorem Within.refl (w : World σ π) : w.Within p w := ⟨[], .refl w, by simp⟩

/-- What is limited to a kind of effects in both of its parts is so as a whole. -/
theorem Within.trans {w₁ w₂ w₃ : World σ π} (h₁ : w₁.Within p w₂) (h₂ : w₂.Within p w₃) :
    w₁.Within p w₃ := by
  obtain ⟨xs, hmoves₁, hkind₁⟩ := h₁
  obtain ⟨ys, hmoves₂, hkind₂⟩ := h₂
  refine ⟨xs ++ ys, hmoves₁.trans hmoves₂, fun e he => ?_⟩
  rcases List.mem_append.mp he with he | he
  · exact hkind₁ e he
  · exact hkind₂ e he

/-- Reading the clock has no effect. -/
theorem now_within (w : World σ π) : w.Within p w.now.2 := ⟨[], w.now_moves, by simp⟩

/-- A call of the store is one effect, that call with the error that came of it, if any. -/
theorem call_within (w : World σ π) (c : StoreCall) (hc : c.method.isRoutine = true)
    (hkind : ∀ failure, p (.store c failure) = true) : w.Within p (w.call c).2 := by
  rcases w.call_cases c hc with ⟨_, _, -, -, hmoves⟩ | ⟨e, -, hmoves⟩
  · exact ⟨_, hmoves, by simpa using hkind none⟩
  · exact ⟨_, hmoves, by simpa using hkind (some e)⟩

/-- A write whose error is passed over is one effect as well. -/
theorem write_within (w : World σ π) (c : StoreCall) (hc : c.method.isRoutine = true)
    (hkind : ∀ failure, p (.store c failure) = true) : w.Within p (w.write c).2 :=
  w.call_within c hc hkind

/-- A call of the model is one effect, its request with the answer. -/
theorem invoke_within [ModelService σ] (w : World σ π) (request : ModelRequest)
    (hkind : ∀ result, p (.model request result) = true) : w.Within p (w.invoke request).2 :=
  ⟨_, w.invoke_moves request, by simpa using hkind _⟩

/-- A request to publish is one effect, the code with the answer. -/
theorem publish_within [Publisher π] (w : World σ π) (session : Session) (code : String)
    (hkind : ∀ result, p (.publish session code result) = true) :
    w.Within p (w.publish session code).2 :=
  ⟨_, w.publish_moves session code, by simpa using hkind _⟩

/-- Validation reads the rules and the cache only, so it has no effect. -/
theorem evaluate_within (w : World σ π) (code : String) (rules : List Rule)
    (allowlist : List String) : w.Within p (w.evaluate code rules allowlist).2 :=
  ⟨[], w.evaluate_moves code rules allowlist, by simp⟩

/-- The record of a verdict is one entry that is appended to the audit log, or tried to be. -/
theorem recordAudit_within (w : World σ π) (tenant : String) (session : Option SessionId)
    (verdict : Verdict) (hkind : ∀ entry failure, p (.store (.appendAudit entry) failure) = true) :
    w.Within p (w.recordAudit tenant session verdict) :=
  w.now_within.trans (write_within _ _ rfl (hkind _))

end World

namespace Work

variable {p : Effect → Bool}

/-- The work has effects of some kind only, also if it fails. -/
def Within (p : Effect → Bool) (x : Work σ π α) : Prop :=
  ∀ w : World σ π, w.Within p (endState (x w))

/-- Work that only gives a value has no effect. -/
theorem Within.pure (a : α) : Within p (Pure.pure a : Work σ π α) := fun w => .refl w

/-- Work in two parts is limited to a kind of effects if both parts are, whatever the first one
gives to the second. -/
theorem Within.bind {x : Work σ π α} {g : α → Work σ π β} (hx : Within p x)
    (hg : ∀ a, Within p (g a)) : Within p (x >>= g) := by
  intro w
  have hfirst := hx w
  cases hresult : x w with
  | ok a w' =>
    rw [hresult] at hfirst
    rw [bind_ok g hresult]
    exact hfirst.trans (hg a w')
  | error e w' =>
    rw [hresult] at hfirst
    rw [bind_error g hresult]
    exact hfirst

/-- Work that is told as an outcome beside the world after it is limited like the step to that
world. -/
theorem Within.ofOutcome {f : World σ π → Except Failure α × World σ π}
    (h : ∀ w : World σ π, w.Within p (f w).2) : Within p (Work.ofOutcome f) := by
  intro w
  have hworld := h w
  unfold Work.ofOutcome
  generalize f w = result at hworld ⊢
  obtain ⟨_ | _, w'⟩ := result
  · exact hworld
  · exact hworld

/-- A change of the world that gives a value is limited like the change. -/
theorem Within.of_modifyGet {change : World σ π → α × World σ π}
    (h : ∀ w : World σ π, w.Within p (change w).2) :
    Within p (modifyGet change : Work σ π α) := h

/-- A change of the world without a value is limited like the change. -/
theorem Within.of_modify {change : World σ π → World σ π}
    (h : ∀ w : World σ π, w.Within p (change w)) :
    Within p (modify change : Work σ π PUnit) := h

/-- A call of the store whose error breaks off the work is one effect, also if it does so. -/
theorem store_within (c : StoreCall) (hc : c.method.isRoutine = true)
    (hkind : ∀ failure, p (.store c failure) = true) :
    Within p (Work.store c : Work σ π c.Answer) :=
  .ofOutcome fun w => w.call_within c hc hkind

/-- A call of the model whose error breaks off the work is one effect, also if it does so. -/
theorem invoke_within [ModelService σ] (request : ModelRequest)
    (hkind : ∀ result, p (.model request result) = true) :
    Within p (Work.invoke request : Work σ π ModelResponse) :=
  .ofOutcome fun w => w.invoke_within request hkind

/-- The search for similar patterns lists the patterns of the intent, and that is all. -/
theorem findSimilar_within (intent : Intent)
    (hlist : ∀ intent failure, p (.store (.listPatterns intent) failure) = true) :
    Within p (findSimilar intent : Work σ π (List PatternReference)) := by
  refine .bind (store_within _ rfl (hlist _)) fun sameIntent => ?_
  split
  · exact .bind (store_within _ rfl (hlist _)) fun _ => .pure _
  · exact .pure _

/-- The code that a prompt shows is read pattern by pattern, a pattern that cannot be read being
skipped. -/
theorem referenceSnippet_within (chars : Nat) (references : List PatternReference) (w : World σ π)
    (hget : ∀ id failure, p (.store (.getPattern id) failure) = true) :
    w.Within p (referenceSnippet chars references w).2 := by
  induction references generalizing w with
  | nil => exact .refl w
  | cons reference references ih =>
    have hcall := w.call_within (.getPattern reference.id) rfl (hget _)
    simp only [referenceSnippet]
    split
    · exact hcall
    · exact hcall.trans (ih _)

/-- The prompt for a generation reads the allowlist of the tenant and patterns. -/
theorem generationPrompt_within (config : Config) (tenant : String) (plan : Plan)
    (hallow : ∀ failure, p (.store (.allowlist tenant) failure) = true)
    (hget : ∀ id failure, p (.store (.getPattern id) failure) = true) :
    Within p (generationPrompt config tenant plan : Work σ π String) :=
  .bind (store_within _ rfl hallow) fun _ =>
    .bind (.of_modifyGet fun w => referenceSnippet_within _ _ w hget) fun _ => .pure _

/-- A validation reads the rules and the allowlist of the tenant, and appends to the audit log.
-/
theorem validate_within (code : String) (session : Option SessionId) (tenant : String)
    (hrules : ∀ failure, p (.store (.activeRules tenant) failure) = true)
    (hallow : ∀ failure, p (.store (.allowlist tenant) failure) = true)
    (haudit : ∀ entry failure, p (.store (.appendAudit entry) failure) = true) :
    Within p (validate code session tenant : Work σ π Verdict) :=
  .bind (store_within _ rfl hrules) fun _ => .bind (store_within _ rfl hallow) fun _ =>
    .bind (.of_modifyGet fun w => w.evaluate_within _ _ _) fun _ =>
      .bind (.of_modify fun w => w.recordAudit_within _ _ _ haudit) fun _ => .pure _

end Work

/-- An escalation asks for one review, whether the store takes it or not. -/
theorem escalate_within {p : Effect → Bool} (session : Session) (verdict : Verdict)
    (w : World σ π) (hreview : ∀ record failure, p (.store (.createReview record) failure) = true) :
    w.Within p (escalate session verdict w).2 :=
  w.now_within.trans (World.write_within _ _ rfl (hreview _))

end ArtifactPipeline
