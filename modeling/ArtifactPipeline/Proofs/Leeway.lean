import Mathlib.Data.List.Forall2
import ArtifactPipeline.Proofs.Entries

/-!
# What two runs may differ in

Two runs of one request may be worked on in different ways, under different names, at different
moments and in worlds that lose different calls. This module says when what the two runs produce is
alike all the same: their sessions, the entries of their logs and what they did to the world.
-/

namespace ArtifactPipeline

open Json

variable {σ π : Type}

/-- Whether the work on sessions calls a method for its answer. -/
def StoreMethod.isRead : StoreMethod → Bool
  | .listPatterns | .getPattern | .activeRules | .allowlist => true
  | _ => false

/-- What two runs may differ in. -/
structure Leeway where
  /-- The way of working of the first run. -/
  left : Entry
  /-- The way of working of the second run. -/
  right : Entry
  /-- Whether sessions and artifacts have the same names in both runs, and the clocks agree. -/
  exact : Prop
  /-- Whether the two worlds lose the same calls. -/
  agree : Prop

namespace Leeway

/-- The status that the second run has where the first one has some status. -/
def status (k : Leeway) (s : Status) : Status := if s = k.left.phase then k.right.phase else s

/-- Where the first run generates, the second run does so in its own way. -/
theorem status_phase (k : Leeway) : k.status k.left.phase = k.right.phase := if_pos rfl

/-- The runs have the same status but for the phase in which the component is generated. -/
theorem status_eq (k : Leeway) {s : Status} (h : s ≠ .generating ∧ s ≠ .streaming) :
    k.status s = s := by
  refine if_neg fun heq => ?_
  rcases k.left.phase_eq with hphase | hphase
  · exact h.1 (heq.trans hphase)
  · exact h.2 (heq.trans hphase)

/-- Two runs that are worked on in the same way have the same statuses. -/
theorem status_of_same {k : Leeway} (h : k.right = k.left) (s : Status) : k.status s = s := by
  unfold status
  split
  · next heq => rw [h, heq]
  · rfl

/-- Where the first run has ended, so has the second one. -/
@[simp] theorem isTerminal_status (k : Leeway) (s : Status) :
    (k.status s).isTerminal = s.isTerminal := by
  unfold status
  split
  · next heq => rw [heq, Entry.phase_isTerminal, Entry.phase_isTerminal]
  · rfl

/-- The two phases in which a component may be generated have the same edges. -/
theorem canMoveTo_status (k : Leeway) (s t : Status) :
    (k.status s).canMoveTo (k.status t) = s.canMoveTo t := by
  have hfrom (a b : Entry) (u : Status) : a.phase.canMoveTo u = b.phase.canMoveTo u := by
    cases a <;> cases b <;> rfl
  have hto (a b : Entry) (u : Status) : u.canMoveTo a.phase = u.canMoveTo b.phase := by
    cases a <;> cases b <;> cases u <;> rfl
  unfold status
  split
  · next hs =>
    split
    · next ht => rw [hs, ht, hfrom _ k.left, hto _ _ k.left.phase]
    · next => rw [hs, hfrom _ k.left]
  · next =>
    split
    · next ht => rw [ht, hto _ k.left]
    · rfl

end Leeway

/-- Neither phase in which a component may be generated has a moment of its own. -/
theorem Timeline.enter_status (k : Leeway) (t : Timeline) (next : Status)
    (now : Time.Instant) : t.enter (k.status next) now = t.enter next now := by
  unfold Leeway.status
  split
  · next heq =>
    rw [heq]
    rcases k with ⟨_ | _, _ | _, _, _⟩ <;> rfl
  · rfl

/-- Two sessions are alike: the same but for their names, those of their artifacts, the moments of
their phases and the phase in which the component is generated. -/
structure Session.Alike (k : Leeway) (s₁ s₂ : Session) : Prop where
  same : s₂ = { s₁ with
    id := s₂.id
    status := k.status s₁.status
    artifactId := s₂.artifactId
    timeline := s₂.timeline }
  artifact : s₂.artifactId.isSome = s₁.artifactId.isSome
  exact : k.exact → s₂.id = s₁.id ∧ s₂.artifactId = s₁.artifactId ∧ s₂.timeline = s₁.timeline

/-- A change of a session that neither looks at what alike sessions may differ in nor touches it. -/
def Session.Discreet (change : Session → Session) : Prop :=
  ∀ s id status artifactId timeline, change { s with id, status, artifactId, timeline } =
    { change s with id, status, artifactId, timeline }

namespace Session

variable {k : Leeway} {s₁ s₂ : Session} {change : Session → Session}

/-- A discreet change keeps the name of the session. -/
theorem Discreet.id (h : Discreet change) (s : Session) : (change s).id = s.id :=
  (congrArg Session.id (h s s.id s.status s.artifactId s.timeline) :)

/-- A discreet change keeps the status of the session. -/
theorem Discreet.status (h : Discreet change) (s : Session) : (change s).status = s.status :=
  (congrArg Session.status (h s s.id s.status s.artifactId s.timeline) :)

/-- A discreet change keeps the name of the artifact. -/
theorem Discreet.artifactId (h : Discreet change) (s : Session) :
    (change s).artifactId = s.artifactId :=
  (congrArg Session.artifactId (h s s.id s.status s.artifactId s.timeline) :)

/-- A discreet change keeps the moments of the phases. -/
theorem Discreet.timeline (h : Discreet change) (s : Session) :
    (change s).timeline = s.timeline :=
  (congrArg Session.timeline (h s s.id s.status s.artifactId s.timeline) :)

/-- Alike sessions stay alike under a discreet change. -/
theorem Alike.discreet (h : s₁.Alike k s₂) (hchange : Discreet change) :
    (change s₁).Alike k (change s₂) where
  same := by
    rw [hchange.id, hchange.status, hchange.artifactId, hchange.timeline, ← hchange, ← h.same]
  artifact := by
    rw [hchange.artifactId, hchange.artifactId]
    exact h.artifact
  exact hexact := by
    rw [hchange.id, hchange.id, hchange.artifactId, hchange.artifactId, hchange.timeline,
      hchange.timeline]
    exact h.exact hexact

/-- Alike sessions that enter the same phase stay alike. -/
theorem Alike.enter (h : s₁.Alike k s₂) (next : Status) {now₁ now₂ : Time.Instant}
    (hnow : k.exact → now₂ = now₁) :
    Session.Alike k { s₁ with status := next, timeline := s₁.timeline.enter next now₁ }
      { s₂ with
        status := k.status next
        timeline := s₂.timeline.enter (k.status next) now₂ } where
  same := congrArg (fun s : Session => { s with
    status := k.status next, timeline := s₂.timeline.enter (k.status next) now₂ }) h.same
  artifact := h.artifact
  exact hexact := by
    obtain ⟨hid, hartifact, htimeline⟩ := h.exact hexact
    refine ⟨hid, hartifact, ?_⟩
    rw [htimeline, hnow hexact]
    exact Timeline.enter_status k _ _ _

/-- Alike sessions have statuses that correspond. -/
theorem Alike.status (h : s₁.Alike k s₂) : s₂.status = k.status s₁.status :=
  congrArg Session.status h.same

/-- Alike sessions belong to one tenant. -/
theorem Alike.tenant (h : s₁.Alike k s₂) : s₂.tenant = s₁.tenant :=
  (congrArg Session.tenant h.same :)

/-- Alike sessions were asked for the same thing. -/
theorem Alike.prompt (h : s₁.Alike k s₂) : s₂.prompt = s₁.prompt :=
  (congrArg Session.prompt h.same :)

/-- Alike sessions were asked in the same mood. -/
theorem Alike.mood (h : s₁.Alike k s₂) : s₂.mood = s₁.mood := (congrArg Session.mood h.same :)

/-- Alike sessions have the same plan. -/
theorem Alike.plan (h : s₁.Alike k s₂) : s₂.plan = s₁.plan := (congrArg Session.plan h.same :)

/-- Alike sessions have the same code. -/
theorem Alike.code (h : s₁.Alike k s₂) : s₂.code = s₁.code := (congrArg Session.code h.same :)

/-- Alike sessions have made as many attempts. -/
theorem Alike.attempts (h : s₁.Alike k s₂) : s₂.attempts = s₁.attempts :=
  (congrArg Session.attempts h.same :)

/-- Alike sessions have the same limit for their attempts. -/
theorem Alike.maxAttempts (h : s₁.Alike k s₂) : s₂.maxAttempts = s₁.maxAttempts :=
  (congrArg Session.maxAttempts h.same :)

/-- Alike sessions with the same names and moments are one, if they are worked on in one way. -/
theorem Alike.eq (h : s₁.Alike k s₂) (hexact : k.exact) (hway : k.right = k.left) : s₂ = s₁ := by
  obtain ⟨hid, hartifact, htimeline⟩ := h.exact hexact
  rw [h.same, hid, hartifact, htimeline, Leeway.status_of_same hway]

end Session

/-- Whether a message of the log says nothing about the phase in which the component is generated.
-/
def isPlain (message : String) : Bool :=
  [Entry.blocking, .streaming].all fun entry =>
    message != entry.announcement && message != "Failed during " ++ entry.phase.label

/-- What two runs say in their logs at the same place, the message and the details of the first one
before those of the second one. -/
inductive Leeway.Says (k : Leeway) : String → Value → String → Value → Prop
  | same {message : String} (data : Value) : k.right = k.left ∨ isPlain message = true →
    Says k message data message data
  /-- The component is about to be generated. -/
  | announced (data : Value) : Says k k.left.announcement data k.right.announcement data
  /-- The session failed in some phase. -/
  | brokeDown (phase : Status) (error : Value) :
    Says k ("Failed during " ++ phase.label) (.obj [("error", error), ("phase", phase.toJson)])
      ("Failed during " ++ (k.status phase).label)
      (.obj [("error", error), ("phase", (k.status phase).toJson)])
  /-- The component passed; it may have been published under another name. -/
  | accepted {name₁ name₂ : Option String} : name₂.isSome = name₁.isSome →
    (k.exact → name₂ = name₁) →
    Says k "Component accepted" (.obj [("artifact_id", .text? name₁)])
      "Component accepted" (.obj [("artifact_id", .text? name₂)])
  /-- The session was put before a human, which may have failed in one of the runs. -/
  | gaveUp (attempts : Value) {stored₁ stored₂ : Bool} : (k.agree → stored₂ = stored₁) →
    Says k "Repair budget exhausted, escalated to human review"
      (.obj [("attempts", attempts), ("escalated", .bool stored₁)])
      "Repair budget exhausted, escalated to human review"
      (.obj [("attempts", attempts), ("escalated", .bool stored₂)])

/-- Two log entries are alike. -/
structure LogEntry.Alike (k : Leeway) (e₁ e₂ : LogEntry) : Prop where
  phase : e₂.phase = k.status e₁.phase
  level : e₂.level = e₁.level
  words : k.Says e₁.message e₁.data e₂.message e₂.data
  exact : k.exact → e₂.session = e₁.session ∧ e₂.time = e₁.time

/-- If nothing is left open, two runs say the same. -/
theorem Leeway.Says.eq {k : Leeway} {message₁ message₂ : String} {data₁ data₂ : Value}
    (h : k.Says message₁ data₁ message₂ data₂) (hexact : k.exact) (hway : k.right = k.left)
    (hagree : k.agree) : message₂ = message₁ ∧ data₂ = data₁ := by
  cases h with
  | same => exact ⟨rfl, rfl⟩
  | announced => exact ⟨by rw [hway], rfl⟩
  | brokeDown => rw [Leeway.status_of_same hway]; exact ⟨rfl, rfl⟩
  | accepted _ hname => rw [hname hexact]; exact ⟨rfl, rfl⟩
  | gaveUp _ hstored => rw [hstored hagree]; exact ⟨rfl, rfl⟩

/-- Alike entries are equal if nothing that they tell of may differ. -/
theorem LogEntry.Alike.eq {k : Leeway} {e₁ e₂ : LogEntry} (h : e₁.Alike k e₂) (hexact : k.exact)
    (hway : k.right = k.left) (hagree : k.agree) : e₂ = e₁ := by
  obtain ⟨hsession, htime⟩ := h.exact hexact
  obtain ⟨hmessage, hdata⟩ := h.words.eq hexact hway hagree
  have hphase := h.phase.trans (Leeway.status_of_same hway _)
  have hlevel := h.level
  cases e₁
  cases e₂
  simp_all

/-- Logs of alike entries are equal if nothing that they tell of may differ. -/
theorem LogEntry.eq_of_alike {k : Leeway} {logs₁ logs₂ : List LogEntry}
    (h : List.Forall₂ (LogEntry.Alike k) logs₁ logs₂) (hexact : k.exact) (hway : k.right = k.left)
    (hagree : k.agree) : logs₁ = logs₂ := by
  induction h with
  | nil => rfl
  | cons he _ ih => rw [he.eq hexact hway hagree, ih]

/-- Two entries of the audit trail are alike. -/
structure AuditEntry.Alike (k : Leeway) (e₁ e₂ : AuditEntry) : Prop where
  same : e₂ = { e₁ with session := e₂.session, time := e₂.time }
  session : e₂.session.isSome = e₁.session.isSome
  exact : k.exact → e₂.session = e₁.session ∧ e₂.time = e₁.time

/-- Two records for human review are alike. -/
structure ReviewRecord.Alike (k : Leeway) (r₁ r₂ : ReviewRecord) : Prop where
  same : r₂ = { r₁ with session := r₂.session, time := r₂.time }
  exact : k.exact → r₂.session = r₁.session ∧ r₂.time = r₁.time

/-- Alike entries of the audit trail are equal if names and moments are the same in both runs.
-/
theorem AuditEntry.Alike.eq {k : Leeway} {e₁ e₂ : AuditEntry} (h : e₁.Alike k e₂)
    (hexact : k.exact) : e₂ = e₁ := by
  obtain ⟨hsession, htime⟩ := h.exact hexact
  rw [h.same, hsession, htime]

/-- Alike records for review are equal if names and moments are the same in both runs. -/
theorem ReviewRecord.Alike.eq {k : Leeway} {r₁ r₂ : ReviewRecord} (h : r₁.Alike k r₂)
    (hexact : k.exact) : r₂ = r₁ := by
  obtain ⟨hsession, htime⟩ := h.exact hexact
  rw [h.same, hsession, htime]

/-- Two publishers came to alike results: both published, under whatever names, or both failed with
the same failure. -/
def PublishedAlike (r₁ r₂ : Except Failure String) : Prop :=
  r₁.map (fun _ => ()) = r₂.map (fun _ => ())

/-- Two effects are alike: the same thing was asked of the world, and the same answer was given if
the work depends on it. -/
inductive Effect.Alike (k : Leeway) : Effect → Effect → Prop
  | read (c : StoreCall) (failure : Option StoreError) : c.method.isRead = true →
    Alike k (.store c failure) (.store c failure)
  | create {s₁ s₂ : Session} (failure₁ failure₂ : Option StoreError) : s₁.Alike k s₂ →
    Alike k (.store (.createSession s₁) failure₁) (.store (.createSession s₂) failure₂)
  | update {s₁ s₂ : Session} (failure₁ failure₂ : Option StoreError) : s₁.Alike k s₂ →
    Alike k (.store (.updateSession s₁) failure₁) (.store (.updateSession s₂) failure₂)
  | log {e₁ e₂ : LogEntry} (failure₁ failure₂ : Option StoreError) : e₁.Alike k e₂ →
    Alike k (.store (.appendLog e₁) failure₁) (.store (.appendLog e₂) failure₂)
  | audit {e₁ e₂ : AuditEntry} (failure₁ failure₂ : Option StoreError) : e₁.Alike k e₂ →
    Alike k (.store (.appendAudit e₁) failure₁) (.store (.appendAudit e₂) failure₂)
  | review {r₁ r₂ : ReviewRecord} (failure₁ failure₂ : Option StoreError) : r₁.Alike k r₂ →
    Alike k (.store (.createReview r₁) failure₁) (.store (.createReview r₂) failure₂)
  | count (id : String) (success : Bool) (failure₁ failure₂ : Option StoreError) :
    Alike k (.store (.recordPatternUsage id success) failure₁)
      (.store (.recordPatternUsage id success) failure₂)
  | model (request : ModelRequest) (result : Except Failure ModelResponse) :
    Alike k (.model request result) (.model request result)
  | publish {s₁ s₂ : Session} (code : String) {r₁ r₂ : Except Failure String} : s₁.Alike k s₂ →
    PublishedAlike r₁ r₂ → (k.exact → r₂ = r₁) →
    Alike k (.publish s₁ code r₁) (.publish s₂ code r₂)

end ArtifactPipeline
