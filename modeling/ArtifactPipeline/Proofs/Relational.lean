import ArtifactPipeline.Proofs.WorldMoves

/-!
# Two runs at once

Some work is done from two states that are related, and comes to the same result and to states that
are related again. Work that does so may be put together, so nothing has to be known of two runs but
what each of their steps keeps up.
-/

namespace ArtifactPipeline

variable {ε τ α β : Type}

/-- A result is the same in two cases, and the states after it are related. -/
inductive Matches (E : τ → τ → Prop) : α × τ → α × τ → Prop
  | intro {a : α} {s₁ s₂ : τ} : E s₁ s₂ → Matches E (a, s₁) (a, s₂)

/-- The same result and related states match. -/
theorem Matches.of_eq {E : τ → τ → Prop} {p₁ p₂ : α × τ} (hresult : p₁.1 = p₂.1)
    (hstate : E p₁.2 p₂.2) : Matches E p₁ p₂ := by
  obtain ⟨a, s₁⟩ := p₁
  obtain ⟨b, s₂⟩ := p₂
  cases hresult
  exact .intro hstate

/-- What matches has the same result and related states. -/
theorem Matches.after {E : τ → τ → Prop} {p₁ p₂ : α × τ} (h : Matches E p₁ p₂) :
    p₂.1 = p₁.1 ∧ E p₁.2 p₂.2 := by
  cases h with
  | intro hs => exact ⟨rfl, hs⟩

/-- Work that may fail came to the same result from two states, and the states after it are related:
by `P` if there is a result, by `E` if it failed. -/
inductive Agrees (E : τ → τ → Prop) (P : α → τ → τ → Prop) :
    EStateM.Result ε τ α → EStateM.Result ε τ α → Prop
  | ok {a : α} {s₁ s₂ : τ} : P a s₁ s₂ → Agrees E P (.ok a s₁) (.ok a s₂)
  | error {e : ε} {s₁ s₂ : τ} : E s₁ s₂ → Agrees E P (.error e s₁) (.error e s₂)

/-- Work keeps related states related. -/
def Keeps (E : τ → τ → Prop) (P : α → τ → τ → Prop) (x : EStateM ε τ α) : Prop :=
  ∀ s₁ s₂, E s₁ s₂ → Agrees E P (x s₁) (x s₂)

/-- Work that goes on after work that agrees, and agrees from related states, agrees. -/
theorem Agrees.bind {E : τ → τ → Prop} {M : α → τ → τ → Prop} {P : β → τ → τ → Prop}
    {x₁ x₂ : EStateM ε τ α} {g₁ g₂ : α → EStateM ε τ β} {s₁ s₂ : τ}
    (hx : Agrees E M (x₁ s₁) (x₂ s₂))
    (hg : ∀ a t₁ t₂, M a t₁ t₂ → Agrees E P (g₁ a t₁) (g₂ a t₂)) :
    Agrees E P ((x₁ >>= g₁) s₁) ((x₂ >>= g₂) s₂) := by
  generalize h₁ : x₁ s₁ = result₁ at hx
  generalize h₂ : x₂ s₂ = result₂ at hx
  cases hx with
  | ok ht =>
    rw [bind_ok g₁ h₁, bind_ok g₂ h₂]
    exact hg _ _ _ ht
  | error ht =>
    rw [bind_error g₁ h₁, bind_error g₂ h₂]
    exact .error ht

namespace Keeps

variable {E : τ → τ → Prop} {P : β → τ → τ → Prop}

/-- Giving a value keeps up a relation that allows it. -/
theorem pure {a : β} (h : ∀ s₁ s₂, E s₁ s₂ → P a s₁ s₂) :
    Keeps E P (Pure.pure a : EStateM ε τ β) := fun s₁ s₂ hs => .ok (h s₁ s₂ hs)

/-- Work in two parts keeps up a relation if both parts do. -/
theorem bind {x : EStateM ε τ α} {g : α → EStateM ε τ β} (hx : Keeps E (fun _ => E) x)
    (hg : ∀ a, Keeps E P (g a)) : Keeps E P (x >>= g) := fun s₁ s₂ hs => (hx s₁ s₂ hs).bind hg

/-- A change that gives a value keeps up a relation if it matches itself from related states. -/
theorem of_modifyGet {change : τ → β × τ}
    (h : ∀ s₁ s₂, E s₁ s₂ → Matches E (change s₁) (change s₂)) :
    Keeps E (fun _ => E) (modifyGet change : EStateM ε τ β) := by
  intro s₁ s₂ hs
  have hmatches := h s₁ s₂ hs
  show Agrees E _ (match change s₁ with | (a, s) => EStateM.Result.ok a s)
    (match change s₂ with | (a, s) => EStateM.Result.ok a s)
  generalize change s₁ = p₁ at hmatches ⊢
  generalize change s₂ = p₂ at hmatches ⊢
  cases hmatches with
  | intro ht => exact .ok ht

end Keeps

end ArtifactPipeline
