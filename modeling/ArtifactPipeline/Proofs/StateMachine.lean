import ArtifactPipeline.Session.Status
import Mathlib.Data.List.Chain

/-!
# The course of the state machine

A session moves forward from status to status; only validation and repair take turns. So the
statuses of a session from its opening to its end, one after the other, have a simple form: no
status comes twice but those two, and a repair stands between a validation and what the repair led
to.
-/

namespace ArtifactPipeline

namespace Status

variable {s t u : Status}

/-- A session may fail as long as it has not ended. -/
theorem canMoveTo_failed (s : Status) : s.canMoveTo .failed = !s.isTerminal := by
  cases s <;> rfl

/-- No edge leaves a status in which a session has ended. -/
theorem canMoveTo_of_isTerminal (h : s.isTerminal = true) (next : Status) :
    s.canMoveTo next = false := by
  revert h
  cases s <;> cases next <;> decide

/-- A session that may move on has not ended. -/
theorem isTerminal_of_canMoveTo (h : s.canMoveTo t = true) : s.isTerminal = false := by
  revert h
  cases s <;> cases t <;> decide

/-- No edge leads back to where it comes from. -/
theorem ne_of_canMoveTo (h : s.canMoveTo t = true) : s ≠ t := by
  revert h
  cases s <;> cases t <;> decide

/-- How far a session has come. Validation and repair are equally far. -/
def rank : Status → Nat
  | pending => 0
  | planning => 1
  | generating | streaming => 2
  | validating | reflexion => 3
  | completed | rejected | failed => 4

/-- The second status is one that a session may take some time after the first one: it is farther,
or both are validation or repair. -/
def Precedes (s t : Status) : Prop := s.rank < t.rank ∨ s.rank = 3 ∧ t.rank = 3

/-- Which status precedes which can be looked up. -/
instance (s t : Status) : Decidable (s.Precedes t) := inferInstanceAs (Decidable (_ ∨ _))

/-- What precedes a status precedes those that come after it. -/
instance : Trans Precedes Precedes Precedes where
  trans {s t u} hst htu := by
    unfold Precedes at *
    omega

/-- Every edge leads forward. -/
theorem precedes_of_canMoveTo (h : s.canMoveTo t = true) : s.Precedes t := by
  revert h
  cases s <;> cases t <;> decide

/-- Only validation and repair are taken again. -/
theorem Precedes.again (hst : s.Precedes t) (hts : t.Precedes s) :
    s = .validating ∨ s = .reflexion := by
  have hrank : s.rank = 3 := by
    unfold Precedes at hst hts
    omega
  revert hrank
  cases s <;> decide

/-- A repair follows a validation. -/
theorem canMoveTo_reflexion (h : s.canMoveTo .reflexion = true) : s = .validating := by
  revert h
  cases s <;> decide

/-- A repair is followed by a validation, or it is the last thing before the end. -/
theorem canMoveTo_of_reflexion (h : canMoveTo .reflexion t = true) :
    t = .validating ∨ t = .rejected ∨ t = .failed := by
  revert h
  cases t <;> decide

end Status

/-! ## From the opening to the end -/

/-- The statuses that a session takes from its opening to its end. -/
structure Status.IsTrail (trail : List Status) (last : Status) : Prop where
  opening : trail.head? = some .pending
  edges : trail.IsChain (·.canMoveTo · = true)
  ending : trail.getLast? = some last
  terminal : last.isTerminal = true

namespace Status.IsTrail

variable {trail : List Status} {last : Status}

/-- On a trail every status precedes all later ones. -/
theorem pairwise (h : IsTrail trail last) : trail.Pairwise Precedes :=
  (h.edges.imp fun _ _ => precedes_of_canMoveTo).pairwise

/-- Among the statuses that are equally far, other than validation and repair, only one is taken,
and once. -/
theorem countP_rank (h : IsTrail trail last) {rank : Nat} (hrank : rank ≠ 3) :
    trail.countP (·.rank = rank) ≤ 1 := by
  rw [List.countP_eq_length_filter]
  have hpairs := h.pairwise.filter (·.rank = rank)
  have hequal : ∀ s ∈ trail.filter (·.rank = rank), s.rank = rank := by simp
  generalize trail.filter (·.rank = rank) = found at hpairs hequal ⊢
  match found with
  | [] | [_] => simp
  | s :: t :: _ =>
    have hst : s.Precedes t := List.rel_of_pairwise_cons hpairs List.mem_cons_self
    have hs := hequal s (by simp)
    have ht := hequal t (by simp)
    unfold Precedes at hst
    omega

/-- A repair stands between a validation and what the repair led to. -/
theorem reflexion_between (h : IsTrail trail last) {before after : List Status}
    (hsplit : trail = before ++ .reflexion :: after) :
    before.getLast? = some .validating ∧ ∃ next, after.head? = some next ∧
      (next = .validating ∨ next = .rejected ∨ next = .failed) := by
  subst hsplit
  obtain ⟨-, hafter, hjoin⟩ := List.isChain_append.mp h.edges
  constructor
  · cases hbefore : before.getLast? with
    | none =>
      obtain rfl := List.getLast?_eq_none_iff.mp hbefore
      cases h.opening
    | some s => rw [canMoveTo_reflexion (hjoin s hbefore .reflexion rfl)]
  · cases after with
    | nil =>
      obtain rfl : Status.reflexion = last := by simpa using h.ending
      cases h.terminal
    | cons next after =>
      exact ⟨next, rfl, canMoveTo_of_reflexion (List.isChain_cons_cons.mp hafter).1⟩

end Status.IsTrail

/-- No status comes twice but validation and repair. -/
structure Status.Orderly (trail : List Status) : Prop where
  pending : trail.count .pending ≤ 1
  planning : trail.count .planning ≤ 1
  /-- The component is generated in one way or in the other, and once. -/
  production : trail.countP (fun s => s = .generating ∨ s = .streaming) ≤ 1
  /-- A repair stands between a validation and what the repair led to. -/
  repair : ∀ before after, trail = before ++ .reflexion :: after →
    before.getLast? = some .validating ∧ ∃ next, after.head? = some next ∧
      (next = .validating ∨ next = .rejected ∨ next = .failed)

/-- A trail never goes back, so nothing but validation and repair can occur on it twice. -/
theorem Status.IsTrail.orderly {trail : List Status} {last : Status} (h : IsTrail trail last) :
    Orderly trail := by
  have hcount {p : Status → Bool} (rank : Nat) (hrank : rank ≠ 3)
      (hp : ∀ s, p s = true → s.rank = rank) : trail.countP p ≤ 1 :=
    (List.countP_mono_left fun s _ hs => by simpa using hp s hs).trans (h.countP_rank hrank)
  constructor
  case pending => exact hcount 0 (by decide) fun s hs => by rw [eq_of_beq hs]; rfl
  case planning => exact hcount 1 (by decide) fun s hs => by rw [eq_of_beq hs]; rfl
  case production =>
    refine hcount 2 (by decide) fun s hs => ?_
    rcases of_decide_eq_true hs with rfl | rfl <;> rfl
  case repair => exact fun _ _ => h.reflexion_between

end ArtifactPipeline
