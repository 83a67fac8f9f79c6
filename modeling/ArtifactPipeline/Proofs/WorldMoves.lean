import ArtifactPipeline.Proofs.Cache
import ArtifactPipeline.Proofs.Journal
import ArtifactPipeline.Run.Validation

/-!
# Worlds move

The work on a session takes a world to another one. The effects of a move are what its journal
gained; the store is the old one with those effects replayed, and the programs of the patterns of
rules stay. So a verdict on a component is the same before and after any move.
-/

namespace ArtifactPipeline

variable {σ π α β : Type}

section Sequence

variable {ε τ : Type}

/-- Work in two parts whose first part succeeds goes on with the second one. -/
theorem bind_ok {x : EStateM ε τ α} {s s' : τ} {a : α} (g : α → EStateM ε τ β)
    (h : x s = .ok a s') : (x >>= g) s = g a s' := by
  simp [bind, EStateM.bind, h]

/-- Work in two parts whose first part breaks off ends there. -/
theorem bind_error {x : EStateM ε τ α} {s s' : τ} {e : ε} (g : α → EStateM ε τ β)
    (h : x s = .error e s') : (x >>= g) s = .error e s' := by
  simp [bind, EStateM.bind, h]

/-- Work in two parts that succeeded succeeded in both parts. -/
theorem ok_of_bind {x : EStateM ε τ α} {g : α → EStateM ε τ β} {s s'' : τ} {b : β}
    (h : (x >>= g) s = .ok b s'') : ∃ a s', x s = .ok a s' ∧ g a s' = .ok b s'' := by
  cases hx : x s with
  | ok a s' => exact ⟨a, s', rfl, by rwa [bind_ok g hx] at h⟩
  | error e s' =>
    rw [bind_error g hx] at h
    cases h

end Sequence

namespace World

/-- The work on a session takes a world to another one with some effects. -/
structure Moves (effects : List Effect) (w w' : World σ π) : Prop where
  journal : w'.journal = w.journal ++ effects
  store : w'.store = effects.foldl MemoryStore.replay w.store
  routine : ∀ e ∈ effects, e.isRoutine = true
  programs : w'.regexes.program = w.regexes.program

/-- A world has moved to itself without effects. -/
theorem Moves.refl (w : World σ π) : w.Moves [] w where
  journal := (List.append_nil _).symm
  store := rfl
  routine := by simp
  programs := rfl

/-- Effects follow each other as the moves do. -/
theorem Moves.trans {xs ys : List Effect} {w₁ w₂ w₃ : World σ π} (h₁ : w₁.Moves xs w₂)
    (h₂ : w₂.Moves ys w₃) : w₁.Moves (xs ++ ys) w₃ where
  journal := by rw [h₂.journal, h₁.journal, List.append_assoc]
  store := by rw [h₂.store, h₁.store, List.foldl_append]
  routine e he := by
    rcases List.mem_append.mp he with he | he
    · exact h₁.routine e he
    · exact h₂.routine e he
  programs := h₂.programs.trans h₁.programs

/-- No move changes what decides about components. -/
theorem Moves.regime {effects : List Effect} {w w' : World σ π} (h : w.Moves effects w') :
    w'.store.regime = w.store.regime := by
  rw [h.store]
  exact w.store.foldl_replay_regime h.routine

/-- The verdict on a component under the rules and the allowed packages that the store of a world
has for a tenant. -/
def assess (w : World σ π) (tenant code : String) : Verdict :=
  (Policy.evaluate code (w.store.rules.filter (·.appliesTo tenant))
    (w.store.resolvedAllowlist tenant) w.regexes).1

/-- No move changes the rules. -/
theorem Moves.rules {effects : List Effect} {w w' : World σ π} (h : w.Moves effects w') :
    w'.store.rules = w.store.rules := congrArg MemoryStore.Regime.rules h.regime

/-- No move changes which packages are allowed for a tenant. -/
theorem Moves.resolvedAllowlist {effects : List Effect} {w w' : World σ π}
    (h : w.Moves effects w') : w'.store.resolvedAllowlist = w.store.resolvedAllowlist := by
  have hglobal : w'.store.globalAllowlist = w.store.globalAllowlist :=
    congrArg MemoryStore.Regime.globalAllowlist h.regime
  have htenants : w'.store.tenantAllowlists = w.store.tenantAllowlists :=
    congrArg MemoryStore.Regime.tenantAllowlists h.regime
  funext tenant
  simp only [MemoryStore.resolvedAllowlist, MemoryStore.tenantAllowlist, hglobal, htenants]

/-- The work on sessions does not change what the verdict on a component is. -/
theorem Moves.assess {effects : List Effect} {w w' : World σ π} (h : w.Moves effects w') :
    w'.assess = w.assess := by
  funext tenant code
  simp only [World.assess, h.rules, h.resolvedAllowlist]
  exact Policy.evaluate_congr _ _ _ h.programs

/-- Reading the clock is a move without effects. -/
theorem now_moves (w : World σ π) : w.Moves [] w.now.2 := by
  exact ⟨(List.append_nil _).symm, rfl, by simp, rfl⟩

/-- Taking a fresh name is a move without effects. -/
theorem freshId_moves (w : World σ π) : w.Moves [] w.freshId.2 := by
  exact ⟨(List.append_nil _).symm, rfl, by simp, rfl⟩

/-- A call that a world replies to is answered by its store. -/
theorem answer_of_reply {w : World σ π} {c : StoreCall} {p : c.Answer × MemoryStore}
    (h : w.reply c = .ok p) : w.store.answer c = .ok p := by
  unfold reply at h
  split at h
  · cases h
  · unfold MemoryStore.call at h
    split at h
    · cases h
    · exact h

/-- A call of the store is answered from what the store holds, or refused. -/
theorem call_cases (w : World σ π) (c : StoreCall) (hc : c.method.isRoutine = true) :
    (∃ answer next, w.store.answer c = .ok (answer, next) ∧ (w.call c).1 = .ok answer ∧
      w.Moves [.store c none] (w.call c).2) ∨
    ∃ e, (w.call c).1 = .error e ∧ w.Moves [.store c (some e)] (w.call c).2 := by
  have hroutine (failure : Option StoreError) :
      ∀ e ∈ [Effect.store c failure], e.isRoutine = true := by
    simpa [Effect.isRoutine] using hc
  cases hreply : w.reply c with
  | ok p =>
    obtain ⟨answer, next⟩ := p
    have hanswer := answer_of_reply hreply
    refine Or.inl ⟨answer, next, hanswer, ?_, ?_⟩
    · rw [call, hreply]
    · rw [call, hreply]
      refine ⟨rfl, ?_, hroutine none, rfl⟩
      simp [MemoryStore.replay, hanswer]
  | error e =>
    refine Or.inr ⟨e, ?_, ?_⟩
    · rw [call, hreply]
    · rw [call, hreply]
      exact ⟨rfl, rfl, hroutine (some e), rfl⟩

/-- A call of the store for its effect tells whether the journal shows it as failed. -/
theorem write_moves (w : World σ π) (c : StoreCall) (hc : c.method.isRoutine = true) :
    ∃ failure, (w.write c).1 = failure.isNone ∧ w.Moves [.store c failure] (w.write c).2 := by
  rcases w.call_cases c hc with ⟨answer, _, _, hresult, hmoves⟩ | ⟨e, hresult, hmoves⟩
  · refine ⟨none, ?_, hmoves⟩
    simp [write, hresult, Except.toBool]
  · refine ⟨some e, ?_, hmoves⟩
    simp [write, hresult, Except.toBool]

/-- A call of the model is a move with this one effect. -/
theorem invoke_moves [ModelService σ] (w : World σ π) (request : ModelRequest) :
    w.Moves [.model request (w.invoke request).1] (w.invoke request).2 := by
  exact ⟨rfl, rfl, by simp [Effect.isRoutine], rfl⟩

/-- A request to publish is a move with this one effect. -/
theorem publish_moves [Publisher π] (w : World σ π) (session : Session) (code : String) :
    w.Moves [.publish session code (w.publish session code).1] (w.publish session code).2 := by
  exact ⟨rfl, rfl, by simp [Effect.isRoutine], rfl⟩

/-- A validation compiles patterns, which are in the cache from then on, and has no effects. -/
theorem evaluate_moves (w : World σ π) (code : String) (rules : List Rule)
    (allowlist : List String) : w.Moves [] (w.evaluate code rules allowlist).2 where
  journal := (List.append_nil _).symm
  store := rfl
  routine := by simp
  programs := Policy.evaluate_program code rules allowlist w.regexes

/-- Each verdict is offered to the audit trail once. -/
theorem recordAudit_moves (w : World σ π) (tenant : String) (session : Option SessionId)
    (verdict : Verdict) :
    ∃ entry failure, w.Moves [.store (.appendAudit entry) failure]
        (w.recordAudit tenant session verdict) ∧
      entry.session = session ∧ entry.isValid = verdict.isValid := by
  obtain ⟨failure, -, hmoves⟩ := w.now.2.write_moves (.appendAudit {
    tenant
    session
    passed := verdict.passed.length
    failed := verdict.failed.length
    isValid := verdict.isValid
    time := w.now.1 }) rfl
  exact ⟨_, failure, w.now_moves.trans hmoves, rfl, rfl⟩

end World

namespace Work

/-- Reading from the store gives what the store holds, or fails. -/
theorem store_cases (c : StoreCall) (w : World σ π) (hc : c.method.isRoutine = true) :
    (∃ answer next w', Work.store c w = .ok answer w' ∧ w.store.answer c = .ok (answer, next) ∧
      w.Moves [.store c none] w') ∨
    ∃ e w', Work.store c w = .error (StoreError.toFailure e) w' ∧
      w.Moves [.store c (some e)] w' := by
  rcases w.call_cases c hc with ⟨answer, next, hanswer, hresult, hmoves⟩ | ⟨e, hresult, hmoves⟩
  · refine Or.inl ⟨answer, next, _, ?_, hanswer, hmoves⟩
    simp only [Work.store, ofOutcome, hresult]
    rfl
  · refine Or.inr ⟨e, _, ?_, hmoves⟩
    simp only [Work.store, ofOutcome, hresult]
    rfl

/-- A call of the model succeeds or breaks off, and is in the journal either way. -/
theorem invoke_cases [ModelService σ] (request : ModelRequest) (w : World σ π) :
    (∃ response w', Work.invoke request w = .ok response w' ∧
      w.Moves [.model request (.ok response)] w') ∨
    ∃ e w', Work.invoke request w = .error e w' ∧ w.Moves [.model request (.error e)] w' := by
  have hmoves := w.invoke_moves request
  rcases hinvoke : w.invoke request with ⟨e | response, w'⟩
  · rw [hinvoke] at hmoves
    exact Or.inr ⟨e, w', by simp [Work.invoke, ofOutcome, hinvoke], hmoves⟩
  · rw [hinvoke] at hmoves
    exact Or.inl ⟨response, w', by simp [Work.invoke, ofOutcome, hinvoke], hmoves⟩

end Work

end ArtifactPipeline
