import ArtifactPipeline.Proofs.SessionCalls

/-!
# Whole histories of a session

What holds of a session after any calls on it, granted or refused. The status tells which phases
have begun, and so which moments of the timeline are set; no phase begins twice. So each moment is
written once, and the moments are in order if the clock never goes back.
-/

namespace ArtifactPipeline

open Time

/-! ## The timeline and the status -/

namespace Timeline

variable {t later : Timeline} {s next : Status} {now : Instant}

/-- The moments that are set, in the order of the phases. -/
def moments (t : Timeline) : List Instant :=
  t.created :: (t.planning.toList ++ t.generation.toList ++ t.validation.toList ++
    t.finished.toList)

/-- The moments of a timeline are the same in a later one. -/
structure Kept (t later : Timeline) : Prop where
  created : later.created = t.created
  planning : ∀ time, t.planning = some time → later.planning = some time
  generation : ∀ time, t.generation = some time → later.generation = some time
  validation : ∀ time, t.validation = some time → later.validation = some time
  finished : ∀ time, t.finished = some time → later.finished = some time

/-- A timeline keeps its own moments. -/
theorem Kept.refl (t : Timeline) : t.Kept t :=
  ⟨rfl, fun _ => id, fun _ => id, fun _ => id, fun _ => id⟩

/-- Moments that are kept from one timeline to the next are kept throughout. -/
theorem Kept.trans {t₁ t₂ t₃ : Timeline} (h₁ : t₁.Kept t₂) (h₂ : t₂.Kept t₃) : t₁.Kept t₃ where
  created := h₂.created.trans h₁.created
  planning time htime := h₂.planning time (h₁.planning time htime)
  generation time htime := h₂.generation time (h₁.generation time htime)
  validation time htime := h₂.validation time (h₁.validation time htime)
  finished time htime := h₂.finished time (h₁.finished time htime)

/-- Of planning, generation and validation, as many have begun as the number says, in that order. -/
structure Begun (t : Timeline) (phases : Nat) : Prop where
  planning : t.planning.isSome = decide (1 ≤ phases)
  generation : t.generation.isSome = decide (2 ≤ phases)
  validation : t.validation.isSome = decide (3 ≤ phases)

/-- The timeline is one of a session in the status: as many phases have begun as the status tells,
unless the session failed, which it may do in any phase. -/
structure Fits (t : Timeline) (s : Status) : Prop where
  begun : ∃ phases, t.Begun phases ∧ (s ≠ .failed → phases = min s.rank 3)
  finished : t.finished.isSome = s.isTerminal

/-- What it adds to a timeline that a status is entered along an edge. -/
inductive Enters (t : Timeline) (now : Instant) : Status → Timeline → Prop
  | planning : t.Begun 0 → t.finished = none →
    Enters t now .planning { t with planning := some now }
  | generation {next : Status} : next = .generating ∨ next = .streaming → t.Begun 1 →
    t.finished = none → Enters t now next { t with generation := some now }
  | validation : t.Begun 2 → t.finished = none →
    Enters t now .validating { t with validation := some now }
  /-- A repair, and every validation but the first one, leave the timeline as it is. -/
  | again {next : Status} : next = .validating ∨ next = .reflexion → t.Begun 3 →
    t.finished = none → Enters t now next t
  | ending {next : Status} {phases : Nat} : next.isTerminal = true → t.Begun phases →
    (next ≠ .failed → phases = 3) → t.finished = none →
    Enters t now next { t with finished := some now }

/-- Along an edge a status is entered for the first time, so its moment is set now and was not
set before. -/
theorem Fits.enters (h : t.Fits s) (hedge : s.canMoveTo next = true) (now : Instant) :
    t.Enters now next (t.enter next now) := by
  obtain ⟨phases, hbegun, hphases⟩ := h.begun
  have hopen : s.isTerminal = false := Status.isTerminal_of_canMoveTo hedge
  have hfinished : t.finished = none := by simpa [hopen] using h.finished
  obtain rfl : phases = min s.rank 3 := hphases (by rintro rfl; cases hopen)
  -- The edge tells how far the session has come, and so which moments are not set yet.
  cases next with
  | pending => cases s <;> cases hedge
  | planning =>
    have hrank : s.rank = 0 := by revert hedge; cases s <;> decide
    rw [hrank] at hbegun
    exact .planning hbegun hfinished
  | generating | streaming =>
    have hrank : s.rank = 1 := by revert hedge; cases s <;> decide
    rw [hrank] at hbegun
    exact .generation (by simp) hbegun hfinished
  | validating =>
    have hrank : s.rank = 2 ∨ s.rank = 3 := by revert hedge; cases s <;> decide
    rcases hrank with hrank | hrank
    · rw [hrank] at hbegun
      have hfirst : t.validation = none := by simpa using hbegun.validation
      simpa [enter, hfirst] using Enters.validation hbegun hfinished
    · rw [hrank] at hbegun
      obtain ⟨time, htime⟩ := Option.isSome_iff_exists.mp hbegun.validation
      have hsame : t.enter .validating now = t := by
        rw [enter, htime, Option.getD_some, ← htime]
      rw [hsame]
      exact .again (.inl rfl) hbegun hfinished
  | reflexion =>
    have hrank : s.rank = 3 := by revert hedge; cases s <;> decide
    rw [hrank] at hbegun
    exact .again (.inr rfl) hbegun hfinished
  | completed | rejected =>
    have hrank : s.rank = 3 := by revert hedge; cases s <;> decide
    rw [hrank] at hbegun
    exact .ending rfl hbegun (fun _ => rfl) hfinished
  | failed => exact .ending rfl hbegun (fun hnot => absurd rfl hnot) hfinished

namespace Enters

/-- The timeline fits the status that was entered. -/
theorem fits (h : t.Enters now next later) : later.Fits next := by
  cases h with
  | planning hbegun hfinished =>
    refine ⟨⟨1, ⟨rfl, hbegun.generation, hbegun.validation⟩, fun _ => rfl⟩, ?_⟩
    simp [hfinished, Status.isTerminal]
  | generation hnext hbegun hfinished =>
    refine ⟨⟨2, ⟨hbegun.planning, rfl, hbegun.validation⟩, ?_⟩, ?_⟩
    · rcases hnext with rfl | rfl <;> exact fun _ => rfl
    · rcases hnext with rfl | rfl <;> simp [hfinished, Status.isTerminal]
  | validation hbegun hfinished =>
    refine ⟨⟨3, ⟨hbegun.planning, hbegun.generation, rfl⟩, fun _ => rfl⟩, ?_⟩
    simp [hfinished, Status.isTerminal]
  | again hnext hbegun hfinished =>
    refine ⟨⟨3, hbegun, ?_⟩, ?_⟩
    · rcases hnext with rfl | rfl <;> exact fun _ => rfl
    · rcases hnext with rfl | rfl <;> simp [hfinished, Status.isTerminal]
  | @ending next phases hended hbegun hphases hfinished =>
    have hrank : next.rank = 4 := by revert hended; cases next <;> decide
    refine ⟨⟨phases, ⟨hbegun.planning, hbegun.generation, hbegun.validation⟩, ?_⟩, hended.symm⟩
    intro hnot
    rw [hphases hnot, hrank]
    rfl

/-- No moment that is set is written again. -/
theorem kept (h : t.Enters now next later) : t.Kept later := by
  cases h with
  | planning hbegun =>
    have hunset : t.planning = none := by simpa using hbegun.planning
    exact { Kept.refl t with planning := by simp [hunset] }
  | generation _ hbegun =>
    have hunset : t.generation = none := by simpa using hbegun.generation
    exact { Kept.refl t with generation := by simp [hunset] }
  | validation hbegun =>
    have hunset : t.validation = none := by simpa using hbegun.validation
    exact { Kept.refl t with validation := by simp [hunset] }
  | again => exact .refl t
  | ending _ _ _ hunset => exact { Kept.refl t with finished := by simp [hunset] }

/-- A moment that is set comes behind those that were set before. -/
theorem moments_eq (h : t.Enters now next later) :
    later.moments = t.moments ∨ later.moments = t.moments ++ [now] := by
  have hnone {time : Option Instant} (h : time.isSome = false) : time = none := by simpa using h
  cases h with
  | planning hbegun hfinished =>
    have hplanning := hnone hbegun.planning
    have hgeneration := hnone hbegun.generation
    have hvalidation := hnone hbegun.validation
    exact .inr (by simp [moments, hplanning, hgeneration, hvalidation, hfinished])
  | generation _ hbegun hfinished =>
    have hgeneration := hnone hbegun.generation
    have hvalidation := hnone hbegun.validation
    exact .inr (by simp [moments, hgeneration, hvalidation, hfinished])
  | validation hbegun hfinished =>
    have hvalidation := hnone hbegun.validation
    exact .inr (by simp [moments, hvalidation, hfinished])
  | again => exact .inl rfl
  | ending _ _ _ hfinished => exact .inr (by simp [moments, hfinished])

end Enters

end Timeline

namespace Session

variable {s : Session} {limit : Nat}

/-! ## One call -/

/-- A call moves the session along an edge and enters the new status into the timeline, or it leaves
status and timeline alone. -/
theorem perform_timeline (s : Session) (op : Operation) (now : Instant) :
    ((s.perform op now).2.status = s.status ∧ (s.perform op now).2.timeline = s.timeline) ∨
    (s.status.canMoveTo (s.perform op now).2.status = true ∧
      (s.perform op now).2.timeline = s.timeline.enter (s.perform op now).2.status now) := by
  have hperformed := s.performed op now
  generalize s.perform op now = outcome at hperformed
  cases hperformed with
  | refused => exact .inl ⟨rfl, rfl⟩
  | granted hgrants =>
    cases op with
    | transition next => exact .inr ⟨hgrants, rfl⟩
    | fail reason => exact .inr ⟨(Status.canMoveTo_failed _).trans hgrants, rfl⟩
    | setCode | setVerdict | recordUsage | recordAttempt => exact .inl ⟨rfl, rfl⟩

/-- A call counts an attempt if one is left, or it counts none. The limit stays. -/
theorem perform_attempts (s : Session) (op : Operation) (now : Instant) :
    (s.perform op now).2.maxAttempts = s.maxAttempts ∧
    ((s.perform op now).2.attempts = s.attempts ∨
      s.attempts < s.maxAttempts ∧ (s.perform op now).2.attempts = s.attempts + 1) := by
  have hperformed := s.performed op now
  generalize s.perform op now = outcome at hperformed
  cases hperformed with
  | refused => exact ⟨rfl, .inl rfl⟩
  | granted hgrants =>
    cases op with
    | recordAttempt =>
      have hleft : s.attempts < s.maxAttempts := by
        simp only [grants, Bool.and_eq_true, decide_eq_true_eq] at hgrants
        exact hgrants.2
      exact ⟨rfl, .inr ⟨hleft, rfl⟩⟩
    | transition | fail | setCode | setVerdict | recordUsage => exact ⟨rfl, .inl rfl⟩

/-- Only a session that has failed has an error. -/
theorem perform_error (herror : s.error.isSome = true → s.status = .failed) (op : Operation)
    (now : Instant) :
    (s.perform op now).2.error.isSome = true → (s.perform op now).2.status = .failed := by
  have hperformed := s.performed op now
  generalize s.perform op now = outcome at hperformed
  cases hperformed with
  | refused => exact herror
  | granted hgrants =>
    cases op with
    | transition next =>
      intro hsome
      simp only [grants, herror hsome] at hgrants
      cases hgrants
    | fail reason => exact fun _ => rfl
    | setCode | setVerdict | recordUsage | recordAttempt => exact herror

/-! ## Many calls -/

/-- The invariant of a session with a limit of repairs. -/
structure Sound (limit : Nat) (s : Session) : Prop where
  maxAttempts : s.maxAttempts = limit
  attempts : s.attempts ≤ limit
  timeline : s.timeline.Fits s.status
  error : s.error.isSome = true → s.status = .failed

/-- A session has become another one: its attempts and moments were kept, and if it was moved, the
new status comes after the old one. -/
structure Becomes (s later : Session) : Prop where
  attempts : s.attempts ≤ later.attempts
  timeline : s.timeline.Kept later.timeline
  status : later.status = s.status ∨ s.status.Precedes later.status

/-- A session to which nothing is done stays what it is. -/
theorem Becomes.refl (s : Session) : s.Becomes s := ⟨Nat.le_refl _, .refl _, .inl rfl⟩

/-- What a session becomes in two parts of its history it becomes in the whole. -/
theorem Becomes.trans {s₁ s₂ s₃ : Session} (h₁ : s₁.Becomes s₂) (h₂ : s₂.Becomes s₃) :
    s₁.Becomes s₃ where
  attempts := Nat.le_trans h₁.attempts h₂.attempts
  timeline := h₁.timeline.trans h₂.timeline
  status := by
    rcases h₁.status with heq₁ | hlater₁
    · rw [← heq₁]
      exact h₂.status
    · rcases h₂.status with heq₂ | hlater₂
      · rw [heq₂]
        exact .inr hlater₁
      · exact .inr (Trans.trans hlater₁ hlater₂)

/-- A new session is sound. -/
theorem new_sound (id : SessionId) (request : ComponentRequest) (limit : Nat) (created : Instant) :
    (new id request limit created).Sound limit where
  maxAttempts := rfl
  attempts := Nat.zero_le _
  timeline := ⟨⟨0, ⟨rfl, rfl, rfl⟩, fun _ => rfl⟩, rfl⟩
  error h := by cases h

/-- One call keeps a session sound, granted or refused, and the session goes on as it may. -/
theorem Sound.perform (h : s.Sound limit) (op : Operation) (now : Instant) :
    (s.perform op now).2.Sound limit ∧ s.Becomes (s.perform op now).2 := by
  obtain ⟨hlimit, hattempts⟩ := s.perform_attempts op now
  have hbound := h.attempts
  have hmax := h.maxAttempts
  have herror := perform_error h.error op now
  rcases s.perform_timeline op now with ⟨hstatus, htimeline⟩ | ⟨hedge, htimeline⟩
  · constructor
    · exact ⟨hlimit.trans hmax, by omega, by rw [hstatus, htimeline]; exact h.timeline, herror⟩
    · exact ⟨by omega, by rw [htimeline]; exact .refl _, .inl hstatus⟩
  · have henters := h.timeline.enters hedge now
    constructor
    · exact ⟨hlimit.trans hmax, by omega, by rw [htimeline]; exact henters.fits, herror⟩
    · exact ⟨by omega, by rw [htimeline]; exact henters.kept,
        .inr (Status.precedes_of_canMoveTo hedge)⟩

/-- Any history of calls keeps a session sound. -/
theorem Sound.performAll (h : s.Sound limit) (history : List (Operation × Instant)) :
    (s.performAll history).Sound limit ∧ s.Becomes (s.performAll history) := by
  induction history generalizing s with
  | nil => exact ⟨h, .refl s⟩
  | cons call history ih =>
    obtain ⟨op, now⟩ := call
    obtain ⟨hsound, hbecomes⟩ := h.perform op now
    obtain ⟨hsound', hbecomes'⟩ := ih hsound
    exact ⟨hsound', hbecomes.trans hbecomes'⟩

/-- What a call sets is not before what was set, and not after what later calls may set. -/
theorem Sound.moments (h : s.Sound limit) (history : List (Operation × Instant))
    (hordered : (s.timeline.moments ++ history.map (·.2)).Pairwise (·.le ·)) :
    (s.performAll history).timeline.moments.Pairwise (·.le ·) := by
  -- The moments that are set stand in front of the readings of the clock that are still to come.
  induction history generalizing s with
  | nil => simpa [Session.performAll] using hordered
  | cons call history ih =>
    obtain ⟨op, now⟩ := call
    refine ih (h.perform op now).1 ?_
    have hmoments : (s.perform op now).2.timeline.moments = s.timeline.moments ∨
        (s.perform op now).2.timeline.moments = s.timeline.moments ++ [now] := by
      rcases s.perform_timeline op now with ⟨-, htimeline⟩ | ⟨hedge, htimeline⟩
      · exact .inl (by rw [htimeline])
      · rw [htimeline]
        exact (h.timeline.enters hedge now).moments_eq
    rcases hmoments with hsame | hadded
    · rw [hsame]
      exact hordered.sublist ((List.sublist_cons_self now _).append_left _)
    · rw [hadded, List.append_assoc]
      exact hordered

/-! ## Any history -/

/-- Two histories one after another are one history. -/
theorem performAll_append (s : Session) (history later : List (Operation × Instant)) :
    s.performAll (history ++ later) = (s.performAll history).performAll later := List.foldl_append

/-- What a session with a limit of repairs is like, whatever was done to it. -/
structure Consistent (limit : Nat) (s : Session) : Prop where
  attempts : s.attempts ≤ limit
  finished : s.timeline.finished.isSome = true ↔ s.status.isTerminal = true
  error : s.error.isSome = true → s.status = .failed
  validated : s.timeline.validation.isSome = true → s.timeline.generation.isSome = true
  generated : s.timeline.generation.isSome = true → s.timeline.planning.isSome = true
  /-- Planning has begun in its own status and in every later one, unless the session failed. -/
  planning : s.status ∈ [.planning, .generating, .streaming, .validating, .reflexion, .completed,
    .rejected] → s.timeline.planning.isSome = true
  generation : s.status ∈ [.generating, .streaming, .validating, .reflexion, .completed,
    .rejected] → s.timeline.generation.isSome = true
  validation : s.status ∈ [.validating, .reflexion, .completed, .rejected] →
    s.timeline.validation.isSome = true

/-- A sound session is consistent in all that can be seen of it. -/
theorem Sound.consistent (h : s.Sound limit) : s.Consistent limit := by
  obtain ⟨phases, hbegun, hphases⟩ := h.timeline.begun
  have hranked {least : Nat} (hleast : least ≤ 3) (hnot : s.status ≠ .failed)
      (hrank : least ≤ s.status.rank) : decide (least ≤ phases) = true := by
    rw [hphases hnot]
    exact decide_eq_true (by omega)
  constructor
  case attempts => exact h.attempts
  case finished => rw [h.timeline.finished]
  case error => exact h.error
  case validated =>
    rw [hbegun.validation, hbegun.generation]
    simpa using fun hthird : 3 ≤ phases => (by omega : 2 ≤ phases)
  case generated =>
    rw [hbegun.generation, hbegun.planning]
    simpa using fun hsecond : 2 ≤ phases => (by omega : 1 ≤ phases)
  case planning =>
    intro hstatus
    rw [hbegun.planning]
    refine hranked (by omega) ?_ ?_ <;> revert hstatus <;> cases s.status <;> decide
  case generation =>
    intro hstatus
    rw [hbegun.generation]
    refine hranked (by omega) ?_ ?_ <;> revert hstatus <;> cases s.status <;> decide
  case validation =>
    intro hstatus
    rw [hbegun.validation]
    refine hranked (by omega) ?_ ?_ <;> revert hstatus <;> cases s.status <;> decide

/-- After any calls on a new session, granted or refused, the session is consistent. Whatever is
called later, no attempt is taken back, no moment is written again, and no status but validation and
repair is entered again after it was left. The moments are in order if the clock never goes back. -/
theorem history_consistent (id : SessionId) (request : ComponentRequest) (limit : Nat)
    (created : Instant) (history : List (Operation × Instant)) :
    let s := (new id request limit created).performAll history
    s.Consistent limit ∧
    (∀ later, s.attempts ≤ (s.performAll later).attempts ∧
      s.timeline.Kept (s.performAll later).timeline) ∧
    (∀ later latest, (s.performAll later).status ≠ s.status →
      (s.performAll (later ++ latest)).status = s.status →
      s.status = .validating ∨ s.status = .reflexion) ∧
    ((created :: history.map (·.2)).Pairwise (·.le ·) →
      s.timeline.moments.Pairwise (·.le ·)) := by
  intro s
  have hnew := new_sound id request limit created
  have hsound : s.Sound limit := (hnew.performAll history).1
  refine ⟨hsound.consistent, ?_, ?_, hnew.moments history⟩
  · intro later
    have hbecomes := (hsound.performAll later).2
    exact ⟨hbecomes.attempts, hbecomes.timeline⟩
  · intro later latest hleft hback
    obtain ⟨hsound', hbecomes⟩ := hsound.performAll later
    have hreturns := (hsound'.performAll latest).2
    rw [performAll_append] at hback
    have hforth : s.status.Precedes (s.performAll later).status :=
      hbecomes.status.resolve_left hleft
    have hagain : (s.performAll later).status.Precedes s.status := by
      rw [← hback]
      exact hreturns.status.resolve_left (hback ▸ hleft.symm)
    exact hforth.again hagain

end Session

end ArtifactPipeline
