import ArtifactPipeline.Proofs.Counters
import ArtifactPipeline.Proofs.PhaseSteps

/-!
# Ledgers

A ledger reads off a journal what the model charged for, which readings of patterns failed, and
which uses of patterns were to be counted. Ledgers of two journals in a row add up. Most work stands
in no ledger; a call of the model is charged once it has been replied to.
-/

namespace ArtifactPipeline

open Json

variable {σ π α β : Type}

namespace TokenUsage

/-- The tokens of a number of calls, those read and those written apart. -/
def sum : List TokenUsage → TokenUsage
  | [] => {}
  | usage :: usages => usage.add (sum usages)

/-- A record without tokens adds nothing. -/
@[simp] theorem add_empty (usage : TokenUsage) : usage.add {} = usage := by
  simp [add]

/-- Nothing is added to a record without tokens but the other record. -/
@[simp] theorem empty_add (usage : TokenUsage) : add {} usage = usage := by
  simp [add]

/-- It does not matter which records are added first. -/
theorem add_assoc (a b c : TokenUsage) : (a.add b).add c = a.add (b.add c) := by
  simp [add, UInt64.add_assoc]

/-- No calls have no tokens. -/
@[simp] theorem sum_nil : sum [] = {} := rfl

/-- The tokens of one call are those of its record. -/
@[simp] theorem sum_singleton (usage : TokenUsage) : sum [usage] = usage := usage.add_empty

/-- As numbers, the tokens of some calls are the sums of those of each. -/
theorem counts_sum (usages : List TokenUsage) :
    Counts (sum usages).input (usages.foldr (fun usage rest => usage.input.toNat + rest) 0) ∧
      Counts (sum usages).output
        (usages.foldr (fun usage rest => usage.output.toNat + rest) 0) := by
  induction usages with
  | nil => exact ⟨.ofNat 0, .ofNat 0⟩
  | cons usage usages ih =>
    exact ⟨(Counts.toNat usage.input).add ih.1, (Counts.toNat usage.output).add ih.2⟩

/-- The tokens of calls in a row are those of the first ones and those of the others. -/
theorem sum_append (xs ys : List TokenUsage) : sum (xs ++ ys) = (sum xs).add (sum ys) := by
  induction xs with
  | nil => simp
  | cons usage xs ih => rw [List.cons_append, sum, sum, ih, add_assoc]

end TokenUsage

namespace Effect

/-- The tokens of a reply of the model. -/
def spent? : Effect → Option TokenUsage
  | model _ (.ok response) => some response.usage
  | _ => none

/-- Why patterns could not be read. -/
def unlisted? : Effect → Option StoreError
  | store (.listPatterns _) failure => failure
  | _ => none

/-- The pattern whose use was to be counted, and the outcome of that use. -/
def use? : Effect → Option (String × Bool)
  | store (.recordPatternUsage id success) _ => some (id, success)
  | _ => none

/-- Whether an effect stands in no ledger. -/
def isOffLedger : Effect → Bool
  | store (.listPatterns _) _ | store (.recordPatternUsage _ _) _ | model _ _ => false
  | _ => true

end Effect

/-- What a journal says about charges and uses. -/
structure Ledger where
  /-- The tokens of each reply of the model. -/
  spent : List TokenUsage := []
  /-- The readings of patterns that failed. -/
  unlisted : List StoreError := []
  /-- The uses of patterns that were to be counted. -/
  uses : List (String × Bool) := []

namespace Ledger

/-- The ledger of two journals in a row. -/
protected def append (k l : Ledger) : Ledger where
  spent := k.spent ++ l.spent
  unlisted := k.unlisted ++ l.unlisted
  uses := k.uses ++ l.uses

/-- Ledgers are put together part by part. -/
instance : Append Ledger := ⟨Ledger.append⟩

/-- The charges of both journals, in their order. -/
@[simp] theorem spent_append (k l : Ledger) : (k ++ l).spent = k.spent ++ l.spent := rfl

/-- The failed readings of both journals, in their order. -/
@[simp] theorem unlisted_append (k l : Ledger) : (k ++ l).unlisted = k.unlisted ++ l.unlisted := rfl

/-- The uses of both journals, in their order. -/
@[simp] theorem uses_append (k l : Ledger) : (k ++ l).uses = k.uses ++ l.uses := rfl

/-- Ledgers with the same three parts are the same. -/
@[ext] theorem ext' {k l : Ledger} (spent : k.spent = l.spent) (unlisted : k.unlisted = l.unlisted)
    (uses : k.uses = l.uses) : k = l := by
  cases k
  cases l
  simp_all

/-- Work that stands in no ledger adds nothing behind a ledger. -/
@[simp] theorem append_empty (l : Ledger) : l ++ ({} : Ledger) = l := by
  ext <;> simp

/-- Work that stands in no ledger adds nothing in front of a ledger. -/
@[simp] theorem empty_append (l : Ledger) : ({} : Ledger) ++ l = l := by
  ext <;> simp

end Ledger

/-- Reads off a journal what it says about charges and uses. -/
def ledger (effects : List Effect) : Ledger where
  spent := effects.filterMap Effect.spent?
  unlisted := effects.filterMap Effect.unlisted?
  uses := effects.filterMap Effect.use?

/-- The ledger of a journal that is continued is put together from its parts. -/
theorem ledger_append (xs ys : List Effect) : ledger (xs ++ ys) = ledger xs ++ ledger ys := by
  ext <;> simp [ledger]

/-- Effects that stand in no ledger make an empty one. -/
theorem ledger_eq_empty {effects : List Effect} (h : ∀ e ∈ effects, e.isOffLedger = true) :
    ledger effects = {} := by
  induction effects with
  | nil => rfl
  | cons e effects ih =>
    have hrest := ih fun e' he' => h e' (by simp [he'])
    have hfirst : ledger [e] = {} := by
      match e, h e (by simp) with
      | .publish .., _ => rfl
      | .store call failure, he => cases call <;> first | rfl | cases he
    rw [← List.singleton_append, ledger_append, hfirst, hrest]
    rfl

namespace World

/-- The work on a session takes a world to another one, and its effects make up a ledger. -/
def Posts (l : Ledger) (w w' : World σ π) : Prop :=
  ∃ effects, w.Moves effects w' ∧ ledger effects = l

/-- Any effects make up their ledger. -/
theorem Moves.posts {effects : List Effect} {w w' : World σ π} (h : w.Moves effects w') :
    w.Posts (ledger effects) w' := ⟨effects, h, rfl⟩

/-- A world that stays as it is posts nothing. -/
theorem Posts.refl (w : World σ π) : w.Posts {} w := (Moves.refl w).posts

/-- The ledgers of two pieces of work on a world are put together. -/
theorem Posts.trans {k l : Ledger} {w₁ w₂ w₃ : World σ π} (h₁ : w₁.Posts k w₂)
    (h₂ : w₂.Posts l w₃) : w₁.Posts (k ++ l) w₃ := by
  obtain ⟨xs, hmoves₁, rfl⟩ := h₁
  obtain ⟨ys, hmoves₂, rfl⟩ := h₂
  exact ⟨xs ++ ys, hmoves₁.trans hmoves₂, ledger_append xs ys⟩

/-- Work whose effects stand in no ledger may go before other work. -/
theorem Posts.after_quiet {l : Ledger} {w₁ w₂ w₃ : World σ π} (h₁ : w₁.Posts {} w₂)
    (h₂ : w₂.Posts l w₃) : w₁.Posts l w₃ := by
  simpa using h₁.trans h₂

/-- Work whose effects stand in no ledger may follow other work. -/
theorem Posts.then_quiet {l : Ledger} {w₁ w₂ w₃ : World σ π} (h₁ : w₁.Posts l w₂)
    (h₂ : w₂.Posts {} w₃) : w₁.Posts l w₃ := by
  simpa using h₁.trans h₂

/-- Work whose effects stand in no ledger posts nothing. -/
theorem Within.posts {w w' : World σ π} (h : w.Within Effect.isOffLedger w') :
    w.Posts {} w' := by
  obtain ⟨effects, hmoves, hkind⟩ := h
  exact ⟨effects, hmoves, ledger_eq_empty hkind⟩

/-- A write that stands in no ledger posts nothing, whether the store takes it or not. -/
theorem write_posts (w : World σ π) (c : StoreCall) (hc : c.method.isRoutine = true)
    (hkind : ∀ failure, (Effect.store c failure).isOffLedger = true) :
    w.Posts {} (w.write c).2 := (w.write_within c hc hkind).posts

/-- Reading the clock posts nothing. -/
theorem now_posts (w : World σ π) : w.Posts {} w.now.2 := w.now_moves.posts

end World

/-- A work that asks the model once is charged for the reply, if there is one. -/
inductive ChargedOnce (usageOf : α → TokenUsage) (w : World σ π) :
    EStateM.Result Failure (World σ π) α → Prop
  | done {a : α} {w' : World σ π} : w.Posts { spent := [usageOf a] } w' →
    ChargedOnce usageOf w (.ok a w')
  /-- The work broke off before the model replied. -/
  | broken {e : Failure} {w' : World σ π} : w.Posts {} w' → ChargedOnce usageOf w (.error e w')

/-- A call of the model is charged with the usage of its reply. -/
theorem invoke_charged [ModelService σ] (request : ModelRequest) (w : World σ π) :
    ChargedOnce (·.usage) w (Work.invoke request w) := by
  rcases Work.invoke_cases request w with ⟨response, w', hresult, hmoves⟩ | ⟨e, w', hresult, hmoves⟩
  · rw [hresult]
    exact .done hmoves.posts
  · rw [hresult]
    exact .broken hmoves.posts

/-- A generation is charged with the usage of the one reply that its code came from. -/
theorem generate_charged [ModelService σ] (config : Config) (tenant : String) (plan : Plan)
    (prompt : String) (w : World σ π) :
    ChargedOnce (·.usage) w (generate config tenant plan prompt w) := by
  have hprompt : w.Within Effect.isOffLedger (endState (generationPrompt config tenant plan w)) :=
    Work.generationPrompt_within config tenant plan (fun _ => rfl) (fun _ _ => rfl) w
  rw [generate]
  cases hinstructions : generationPrompt config tenant plan w with
  | error e w₁ =>
    rw [hinstructions] at hprompt
    rw [bind_error _ hinstructions]
    exact .broken hprompt.posts
  | ok instructions w₁ =>
    rw [hinstructions] at hprompt
    rw [bind_ok _ hinstructions]
    let request : ModelRequest := {
      modelId := plan.modelId
      messages := [⟨.system, instructions⟩, ⟨.user, prompt⟩]
      temperature := config.pipeline.generationTemperature
      maxTokens := plan.estimatedTokens }
    have hinvoke := invoke_charged request w₁
    cases hresponse : Work.invoke request w₁ with
    | error e w₂ =>
      rw [hresponse] at hinvoke
      rw [bind_error _ hresponse]
      cases hinvoke with
      | broken hposts => exact .broken (hprompt.posts.after_quiet hposts)
    | ok response w₂ =>
      rw [hresponse] at hinvoke
      rw [bind_ok _ hresponse]
      cases hinvoke with
      | done hposts => exact .done (hprompt.posts.after_quiet hposts)

/-- Asking for a repair is charged for the reply, whether it holds code or not. The session may be
one attempt on, and is the same otherwise. -/
theorem attemptRepair_charged [ModelService σ] (config : Config) (t : RepairTask) (s : Session)
    (w : World σ π) :
    ∃ spent, w.Posts { spent } (attemptRepair config t s w).2 ∧
      TokenUsage.sum spent = (attemptRepair config t s w).1.1.usage ∧
      ∃ attempts, (attemptRepair config t s w).1.2 = { s with attempts } := by
  have hmoves := w.invoke_moves (t.request config s.plan)
  unfold attemptRepair
  rcases hinvoke : w.invoke (t.request config s.plan) with ⟨e | response, w'⟩
  · rw [hinvoke] at hmoves
    exact ⟨[], hmoves.posts, rfl, s.attempts, rfl⟩
  · rw [hinvoke] at hmoves
    refine ⟨[response.usage], hmoves.posts, ?_, ?_⟩
    · simp only [TokenUsage.sum_singleton, settleRepair]
      split
      · rfl
      · cases s.recordAttempt? <;> rfl
    · simp only [settleRepair]
      split
      · exact ⟨s.attempts, rfl⟩
      · cases hrecord : s.recordAttempt? with
        | none => exact ⟨s.attempts, rfl⟩
        | some counted =>
          unfold Session.recordAttempt? at hrecord
          split at hrecord
          · cases hrecord
          · cases hrecord
            exact ⟨s.attempts + 1, rfl⟩

end ArtifactPipeline
