import ArtifactPipeline.Proofs.FlightMoves
import ArtifactPipeline.Run.Phase

/-!
# The steps of a session

Seen from outside, a session that is worked on takes four kinds of steps: it asks something of the
world, it is changed, it writes into its log, or it moves to another status, which is logged and
stored. What every step preserves holds of the whole work on a session, whatever phases that work
consists of.
-/

namespace ArtifactPipeline

variable {σ π α β : Type}

namespace Effect

/-- Whether an effect leaves the stored session and its stored log alone. -/
def isAside : Effect → Bool
  | store (.createSession _) _ | store (.updateSession _) _ | store (.appendLog _) _ => false
  | _ => true

/-- The session that was offered to the store in place of the stored one, and why that failed if it
did. -/
def update? : Effect → Option (Session × Option StoreError)
  | store (.updateSession session) failure => some (session, failure)
  | _ => none

/-- The session that was offered to the store as a new one, and why that failed if it did. -/
def creation? : Effect → Option (Session × Option StoreError)
  | store (.createSession session) failure => some (session, failure)
  | _ => none

/-- Only a call that updates the stored session offers one in its place. -/
theorem eq_of_update? {e : Effect} {session : Session} {failure : Option StoreError}
    (h : e.update? = some (session, failure)) : e = store (.updateSession session) failure := by
  unfold update? at h
  split at h
  · cases h
    rfl
  · cases h

/-- What leaves the stored session alone writes nothing into its log. -/
theorem logged?_of_isAside {e : Effect} (h : e.isAside = true) : e.logged? = none := by
  match e, h with
  | .model .., _ | .publish .., _ => rfl
  | .store call failure, h => cases call <;> first | rfl | cases h

/-- What leaves the stored session alone does not update it. -/
theorem update?_of_isAside {e : Effect} (h : e.isAside = true) : e.update? = none := by
  match e, h with
  | .model .., _ | .publish .., _ => rfl
  | .store call failure, h => cases call <;> first | rfl | cases h

/-- What leaves the stored session alone does not create one. -/
theorem creation?_of_isAside {e : Effect} (h : e.isAside = true) : e.creation? = none := by
  match e, h with
  | .model .., _ | .publish .., _ => rfl
  | .store call failure, h => cases call <;> first | rfl | cases h

end Effect

namespace SessionRun

/-- One step of a session that is worked on, with its effects. -/
inductive Step (r : SessionRun) : List Effect → SessionRun → Prop
  /-- Something is asked of the world. -/
  | ask {e : Effect} : e.isAside = true → Step r [e] r
  /-- The session is changed, but not its status. No session that has ended is changed. -/
  | change {s : Session} {previous : List Attempt} : r.session.status.isTerminal = false →
    s.origin = r.session.origin → s.status = r.session.status →
    Step r [] { r with session := s, previous }
  /-- An entry is written into the log of the session. -/
  | log {e : LogEntry} {failure : Option StoreError} : e.session = r.session.id →
    e.phase = r.session.status → Step r [.store (.appendLog e) failure] (r.record e)
  /-- The session moves along an edge of its state machine; the move is logged and stored. -/
  | move {s : Session} {e : LogEntry} {unlogged unstored : Option StoreError} :
    r.session.status.canMoveTo s.status = true → s.origin = r.session.origin →
    e.session = s.id → e.phase = s.status →
    Step r [.store (.appendLog e) unlogged, .store (.updateSession s) unstored]
      ({ r with session := s }.record e)

/-- A number of steps, with their effects in order. -/
inductive Steps : SessionRun → List Effect → SessionRun → Prop
  | refl (r : SessionRun) : Steps r [] r
  | step {r₁ r₂ r₃ : SessionRun} {xs ys : List Effect} : Step r₁ xs r₂ → Steps r₂ ys r₃ →
    Steps r₁ (xs ++ ys) r₃

namespace Steps

variable {r r' r₁ r₂ r₃ : SessionRun} {xs ys : List Effect}

/-- One step is a number of steps. -/
theorem single (h : r₁.Step xs r₂) : r₁.Steps xs r₂ := by
  have hsteps := Steps.step h (.refl r₂)
  rwa [List.append_nil] at hsteps

/-- Steps follow each other. -/
theorem trans (h₁ : r₁.Steps xs r₂) (h₂ : r₂.Steps ys r₃) : r₁.Steps (xs ++ ys) r₃ := by
  induction h₁ with
  | refl => exact h₂
  | step hstep _ ih =>
    rw [List.append_assoc]
    exact .step hstep (ih h₂)

/-- What holds of a session and of what was done for it, and is preserved by each step, holds after
any number of steps. -/
theorem preserve {P : List Effect → SessionRun → Prop}
    (hstep : ∀ {done xs : List Effect} {r r' : SessionRun}, P done r → r.Step xs r' →
      P (done ++ xs) r')
    (done : List Effect) (h : r.Steps xs r') (hr : P done r) : P (done ++ xs) r' := by
  induction h generalizing done with
  | refl => rwa [List.append_nil]
  | step h _ ih =>
    rw [← List.append_assoc]
    exact ih _ (hstep hr h)

/-- Asking the world any number of things is a number of steps. -/
theorem ask (r : SessionRun) (h : ∀ e ∈ xs, e.isAside = true) : r.Steps xs r := by
  induction xs with
  | nil => exact .refl r
  | cons e xs ih =>
    exact .step (.ask (h e (by simp))) (ih fun e' he' => h e' (by simp [he']))

end Steps

end SessionRun

/-- What a session that is worked on has said and stored since it was `start` is its own: its log
gained what was offered to the log of the store, nothing was offered under another name, and no
session was created. -/
structure SessionRun.Owns (start : SessionRun) (done : List Effect) (r : SessionRun) : Prop where
  origin : r.session.origin = start.session.origin
  history : r.history = start.history ++ done.filterMap Effect.logged?
  pending : r.pending = start.pending ++ done.filterMap Effect.logged?
  entries : ∀ e ∈ done.filterMap Effect.logged?, e.session = start.session.id
  updates : ∀ u ∈ done.filterMap Effect.update?, u.1.id = start.session.id
  creations : done.filterMap Effect.creation? = []

namespace SessionRun

variable {start r r' : SessionRun} {done xs : List Effect}

/-- A session on which nothing was done owns what it has said. -/
theorem Owns.refl (r : SessionRun) : r.Owns [] r := ⟨rfl, by simp, by simp, by simp, by simp, rfl⟩

/-- A session keeps its name. -/
theorem Owns.id (h : start.Owns done r) : r.session.id = start.session.id :=
  congrArg Origin.id h.origin

/-- A session may write into its own log. -/
theorem Owns.record (h : start.Owns done r) {e : LogEntry} (failure : Option StoreError)
    (he : e.session = start.session.id) :
    start.Owns (done ++ [.store (.appendLog e) failure]) (r.record e) where
  origin := h.origin
  history := by simp [SessionRun.record, h.history, Effect.logged?]
  pending := by simp [SessionRun.record, h.pending, Effect.logged?]
  entries e' he' := by
    rw [List.filterMap_append, List.mem_append] at he'
    rcases he' with he' | he'
    · exact h.entries e' he'
    · obtain rfl : e' = e := by simpa [Effect.logged?] using he'
      exact he
  updates := by simpa [Effect.update?] using h.updates
  creations := by simp [h.creations, Effect.creation?]

/-- A session may be stored under its own name. -/
theorem Owns.store (h : start.Owns done r) {s : Session} (failure : Option StoreError)
    (hs : s.id = start.session.id) :
    start.Owns (done ++ [.store (.updateSession s) failure]) r where
  origin := h.origin
  history := by simp [h.history, Effect.logged?]
  pending := by simp [h.pending, Effect.logged?]
  entries := by simpa [Effect.logged?] using h.entries
  updates u hu := by
    rw [List.filterMap_append, List.mem_append] at hu
    rcases hu with hu | hu
    · exact h.updates u hu
    · obtain rfl : u = (s, failure) := by simpa [Effect.update?, eq_comm] using hu
      exact hs
  creations := by simp [h.creations, Effect.creation?]

/-- What a step says and stores belongs to the session that took it. -/
theorem Owns.step (h : start.Owns done r) (hstep : r.Step xs r') : start.Owns (done ++ xs) r' := by
  cases hstep with
  | ask he =>
    exact {
      origin := h.origin
      history := by simp [h.history, Effect.logged?_of_isAside he]
      pending := by simp [h.pending, Effect.logged?_of_isAside he]
      entries := by simpa [Effect.logged?_of_isAside he] using h.entries
      updates := by simpa [Effect.update?_of_isAside he] using h.updates
      creations := by simp [h.creations, Effect.creation?_of_isAside he] }
  | change _ horigin _ =>
    rw [List.append_nil]
    exact { h with origin := horigin.trans h.origin }
  | @log e failure hsession _ => exact h.record failure (hsession.trans h.id)
  | @move s e unlogged unstored _ horigin hsession _ =>
    have hid : s.id = start.session.id := (congrArg Origin.id horigin).trans h.id
    have hmoved : start.Owns done { r with session := s } :=
      { h with origin := horigin.trans h.origin }
    have hsaid := (hmoved.record unlogged (hsession.trans hid)).store unstored hid
    rwa [List.append_assoc] at hsaid

/-- Whatever work consists of steps, the session owns what was said and stored in it. -/
theorem Steps.owns (h : r.Steps xs r') : r.Owns xs r' :=
  h.preserve (P := r.Owns) Owns.step [] (Owns.refl r)

/-- A session that has ended is the one that was offered to the store last. -/
def Filed (done : List Effect) (r : SessionRun) : Prop :=
  r.session.status.isTerminal = true →
    ∃ failure, (done.filterMap Effect.update?).getLast? = some (r.session, failure)

/-- A step that ends a session stores it, and no step changes a session that has ended. -/
theorem Filed.step (h : r.Filed done) (hstep : r.Step xs r') : r'.Filed (done ++ xs) := by
  cases hstep with
  | ask he =>
    intro hended
    simpa [Effect.update?_of_isAside he] using h hended
  | change hopen _ hstatus =>
    intro hended
    exact absurd (hstatus ▸ hended) (by simp [hopen])
  | @log e failure _ _ =>
    intro hended
    rw [List.filterMap_append, List.filterMap_cons_none rfl, List.filterMap_nil, List.append_nil]
    exact h hended
  | @move s e unlogged unstored _ _ _ _ =>
    intro _
    refine ⟨unstored, ?_⟩
    rw [List.filterMap_append]
    exact List.getLast?_concat

/-- The move that ends a session stores it as it is then, and it does not change afterwards. -/
theorem Steps.filed (h : r.Steps xs r') (hopen : r.session.status.isTerminal = false) :
    r'.Filed xs :=
  h.preserve Filed.step [] fun hended => absurd hended (by simp [hopen])

/-- A session that has moved since a status was stored with the status that it has. -/
def StoredSince (before : Status) (done : List Effect) (r : SessionRun) : Prop :=
  r.session.status = before ∨
    ∃ s failure, (done.filterMap Effect.update?).getLast? = some (s, failure) ∧
      s.status = r.session.status

/-- A step that moves a session to another status stores it there. -/
theorem StoredSince.step {before : Status} (h : r.StoredSince before done) (hstep : r.Step xs r') :
    r'.StoredSince before (done ++ xs) := by
  cases hstep with
  | ask he => simpa [StoredSince, Effect.update?_of_isAside he] using h
  | change _ _ hstatus =>
    rw [List.append_nil]
    rcases h with h | ⟨s, failure, hlast, hs⟩
    · exact Or.inl (hstatus.trans h)
    · exact Or.inr ⟨s, failure, hlast, hs.trans hstatus.symm⟩
  | @log e failure _ _ =>
    rw [StoredSince, List.filterMap_append, List.filterMap_cons_none rfl, List.filterMap_nil,
      List.append_nil]
    exact h
  | @move s e unlogged unstored _ _ _ _ =>
    refine Or.inr ⟨s, unstored, ?_, rfl⟩
    rw [List.filterMap_append]
    exact List.getLast?_concat

/-- A session with another status than before was stored with that status, and not with another one
since. -/
theorem Steps.stored_status (h : r.Steps xs r') (hmoved : r'.session.status ≠ r.session.status) :
    ∃ s failure, (xs.filterMap Effect.update?).getLast? = some (s, failure) ∧
      s.status = r'.session.status := by
  have hstored : r'.StoredSince r.session.status xs :=
    h.preserve StoredSince.step [] (Or.inl rfl)
  exact hstored.resolve_left hmoved

end SessionRun

/-- Whether no component has been validated yet. -/
def Status.isEarly : Status → Bool
  | .pending | .planning | .generating | .streaming => true
  | _ => false

/-- No edge leads back to a status before the first validation. -/
theorem Status.isEarly_of_canMoveTo {s t : Status} (hedge : s.canMoveTo t = true)
    (ht : t.isEarly = true) : s.isEarly = true := by
  cases s <;> cases t <;> simp_all [canMoveTo, isEarly]

namespace SessionRun

variable {r r' : SessionRun} {done xs : List Effect}

/-- As long as no component has been validated, no entry of the log is of a later phase. -/
def Early (done : List Effect) (r : SessionRun) : Prop :=
  r.session.status.isEarly = true →
    ∀ e ∈ done.filterMap Effect.logged?, e.phase.isEarly = true

/-- The entries before the first validation are of the phases before it. -/
theorem Early.step (h : r.Early done) (hstep : r.Step xs r') : r'.Early (done ++ xs) := by
  cases hstep with
  | ask he =>
    intro hearly
    simpa [Effect.logged?_of_isAside he] using h hearly
  | change _ _ hstatus =>
    intro hearly
    rw [List.append_nil]
    exact h (hstatus ▸ hearly)
  | @log e failure _ hphase =>
    intro hearly e' he'
    rw [List.filterMap_append, List.mem_append] at he'
    rcases he' with he' | he'
    · exact h hearly e' he'
    · obtain rfl : e' = e := by simpa [Effect.logged?] using he'
      rw [hphase]
      exact hearly
  | @move s e unlogged unstored hedge _ _ hphase =>
    intro hearly e' he'
    rw [List.filterMap_append, List.mem_append] at he'
    rcases he' with he' | he'
    · exact h (Status.isEarly_of_canMoveTo hedge hearly) e' he'
    · obtain rfl : e' = e := by simpa [Effect.logged?] using he'
      rw [hphase]
      exact hearly

/-- However a session came to where it is, its log has no later phase in it before a component
was validated. -/
theorem Steps.early (h : r.Steps xs r') : r'.Early xs :=
  h.preserve Early.step [] fun _ _ he => by cases he

end SessionRun

end ArtifactPipeline
