import ArtifactPipeline.Proofs.StateMachine
import ArtifactPipeline.Session.Operation

/-!
# Calls on a session are atomic

A call changes a session in place and may break off. It breaks off before it has changed anything,
so the calls do what the operations of the pipeline do, which give either a session or a failure.
What a call does to a session is said here once, for all calls; nothing after this module looks
into a call again.
-/

namespace ArtifactPipeline

open Time

namespace SessionCall

variable {α : Type}

/-- A call that takes a step of the session, or leaves the session as it is. -/
def ofStep (change : Session → Except Failure Session) : SessionCall Unit := fun s =>
  match change s with
  | .ok next => .ok () next
  | .error cause => .error cause s

/-- A call that looks at the session first goes on with that session. -/
theorem get_bind (g : Session → SessionCall α) (s : Session) : (get >>= g) s = g s s := rfl

/-- A call that changes the session first goes on with the changed session. -/
theorem modify_bind (change : Session → Session) (g : PUnit → SessionCall α) (s : Session) :
    (modify change >>= g) s = g ⟨⟩ (change s) := rfl

/-- A call that is guarded against sessions that have ended is a step. -/
theorem ensureMutable_bind (change : Session → Session) {edit : SessionCall Unit}
    (hedit : ∀ s, edit s = .ok () (change s)) :
    (ensureMutable >>= fun _ => edit) = ofStep (·.modify change) := by
  funext s
  simp only [ofStep, Session.modify]
  by_cases hended : s.status.isTerminal = true
  · have hguard : ensureMutable s = .error (.frozen s.id s.status) s := by
      rw [ensureMutable, get_bind, if_pos hended]
      rfl
    rw [if_pos hended]
    simp only [bind, EStateM.bind, hguard]
  · have hguard : ensureMutable s = .ok () s := by
      rw [ensureMutable, get_bind, if_neg hended]
      rfl
    rw [if_neg hended]
    simp only [bind, EStateM.bind, hguard, hedit]

/-- The move in place is the step that the pipeline takes. -/
theorem transition_eq (next : Status) (now : Instant) :
    transition next now = ofStep (·.transition next now) := by
  funext s
  rw [transition, get_bind]
  simp only [ofStep, Session.transition]
  by_cases hedge : s.status.canMoveTo next = true
  · rw [if_pos hedge, if_pos hedge]
    rfl
  · rw [if_neg hedge, if_neg hedge]
    rfl

/-- The reason is written after the move, and only if there was one. -/
theorem fail_eq (reason : String) (now : Instant) :
    fail reason now = ofStep (·.fail reason now) := by
  funext s
  rw [fail, transition_eq]
  simp only [bind, EStateM.bind, ofStep, Session.fail]
  cases s.transition .failed now <;> rfl

/-- Keeping code is a step of the session. -/
theorem setCode_eq (code : String) : setCode code = ofStep (·.setCode code) :=
  ensureMutable_bind _ fun _ => rfl

/-- Keeping a verdict is a step of the session. -/
theorem setVerdict_eq (verdict : Verdict) : setVerdict verdict = ofStep (·.setVerdict verdict) :=
  ensureMutable_bind _ fun _ => rfl

/-- Charging tokens and their price is a step of the session. -/
theorem recordUsage_eq (usage : TokenUsage) (cost : Float) :
    recordUsage usage cost = ofStep (·.recordUsage usage cost) :=
  ensureMutable_bind _ fun _ => rfl

/-- An attempt is counted, or the call says that none is left; it never breaks off. -/
theorem recordAttempt_eq (s : Session) : recordAttempt s =
    match s.recordAttempt? with
    | some next => .ok true next
    | none => .ok false s := by
  rw [recordAttempt, get_bind, Session.recordAttempt?]
  by_cases hspent : (s.status.isTerminal || s.attempts ≥ s.maxAttempts) = true
  · rw [if_pos hspent, if_pos hspent]
    rfl
  · rw [if_neg hspent, if_neg hspent]
    rfl

end SessionCall

namespace Session

/-! ## What a call does -/

/-- Whether the answer says that nothing was done. -/
def Answer.isRefusal : Answer → Bool
  | refused _ | attempt false => true
  | done | attempt true => false

/-- Whether a call is granted. -/
def grants (s : Session) : Operation → Bool
  | .transition next => s.status.canMoveTo next
  | .recordAttempt => !s.status.isTerminal && decide (s.attempts < s.maxAttempts)
  | .fail _ | .setCode _ | .setVerdict _ | .recordUsage _ _ => !s.status.isTerminal

/-- The session after a call that is granted. -/
def granted (s : Session) (now : Instant) : Operation → Session
  | .transition next => { s with status := next, timeline := s.timeline.enter next now }
  | .fail reason =>
    { s with status := .failed, timeline := s.timeline.enter .failed now, error := some reason }
  | .setCode code => { s with code := some code }
  | .setVerdict verdict => { s with verdict := some verdict }
  | .recordUsage usage cost => { s with usage := s.usage.add usage, cost := s.cost + cost }
  | .recordAttempt => { s with attempts := s.attempts + 1 }

/-! ## All calls at once -/

section Calls

variable {s : Session} {op : Operation} {now : Instant} {change : Session → Except Failure Session}

/-- A call that takes a step changes the session as the step does, if that succeeds. -/
theorem perform_step (hcall : op.call now = (SessionCall.ofStep change >>= fun _ => pure .done)) :
    s.perform op now =
      match change s with
      | .ok next => (.done, next)
      | .error cause => (.refused cause, s) := by
  simp only [perform, hcall, bind, EStateM.bind, SessionCall.ofStep]
  cases change s <;> rfl

/-- What a call does: it changes the session if it is granted, and otherwise it is refused and
changes nothing. -/
inductive Performed (s : Session) (op : Operation) (now : Instant) : Answer × Session → Prop
  | granted {answer : Answer} : s.grants op = true → answer.isRefusal = false →
    Performed s op now (answer, s.granted now op)
  | refused {answer : Answer} : s.grants op = false → answer.isRefusal = true →
    Performed s op now (answer, s)

/-- A call that edits the session is granted as long as the session has not ended. -/
theorem performed_modify {edit : Session → Session}
    (hcall : op.call now = (SessionCall.ofStep (·.modify edit) >>= fun _ => pure .done))
    (hgrants : s.grants op = !s.status.isTerminal) (hgranted : s.granted now op = edit s) :
    s.Performed op now (s.perform op now) := by
  rw [perform_step hcall, modify]
  cases hended : s.status.isTerminal with
  | true => exact .refused (by rw [hgrants, hended]; rfl) rfl
  | false => exact hgranted ▸ .granted (by rw [hgrants, hended]; rfl) rfl

end Calls

/-- Every call does what it is granted to do, or nothing. -/
theorem performed (s : Session) (op : Operation) (now : Instant) :
    s.Performed op now (s.perform op now) := by
  cases op with
  | transition next =>
    have hcall : (Operation.transition next).call now =
        (SessionCall.ofStep (·.transition next now) >>= fun _ => pure .done) := by
      rw [← SessionCall.transition_eq]
      rfl
    rw [perform_step hcall, transition]
    by_cases hedge : s.status.canMoveTo next = true
    · rw [if_pos hedge]
      exact .granted hedge rfl
    · rw [if_neg hedge]
      exact .refused (eq_false_of_ne_true hedge) rfl
  | fail reason =>
    have hcall : (Operation.fail reason).call now =
        (SessionCall.ofStep (·.fail reason now) >>= fun _ => pure .done) := by
      rw [← SessionCall.fail_eq]
      rfl
    rw [perform_step hcall, fail, transition, Status.canMoveTo_failed]
    cases hended : s.status.isTerminal with
    | true => exact .refused (by rw [grants, hended]; rfl) rfl
    | false => exact .granted (by rw [grants, hended]; rfl) rfl
  | setCode code =>
    have hcall := SessionCall.setCode_eq code
    exact performed_modify (by rw [Operation.call, hcall]; rfl) rfl rfl
  | setVerdict verdict =>
    have hcall := SessionCall.setVerdict_eq verdict
    exact performed_modify (by rw [Operation.call, hcall]; rfl) rfl rfl
  | recordUsage usage cost =>
    have hcall := SessionCall.recordUsage_eq usage cost
    exact performed_modify (by rw [Operation.call, hcall]; rfl) rfl rfl
  | recordAttempt =>
    have hcall : s.perform .recordAttempt now =
        match s.recordAttempt? with
        | some next => (.attempt true, next)
        | none => (.attempt false, s) := by
      simp only [perform, Operation.call, bind, EStateM.bind, SessionCall.recordAttempt_eq]
      cases s.recordAttempt? <;> rfl
    have hspent : (s.status.isTerminal || decide (s.attempts ≥ s.maxAttempts)) =
        !s.grants .recordAttempt := by
      simp [grants, Bool.not_and, ← decide_not]
    rw [hcall, recordAttempt?, hspent]
    cases hgrants : s.grants .recordAttempt with
    | true => exact .granted hgrants rfl
    | false => exact .refused hgrants rfl

/-- A call is refused if it is not granted, and only then. -/
theorem isRefusal_perform (s : Session) (op : Operation) (now : Instant) :
    (s.perform op now).1.isRefusal = !s.grants op := by
  have hperformed := s.performed op now
  generalize s.perform op now = outcome at hperformed
  cases hperformed with
  | granted hgrants hanswer => rw [hanswer, hgrants]; rfl
  | refused hgrants hanswer => rw [hanswer, hgrants]; rfl

/-- No call is granted on a session that has ended. -/
theorem not_grants_of_isTerminal {s : Session} (hended : s.status.isTerminal = true)
    (op : Operation) : s.grants op = false := by
  cases op with
  | transition next => exact Status.canMoveTo_of_isTerminal hended next
  | fail | setCode | setVerdict | recordUsage => rw [grants, hended]; rfl
  | recordAttempt => rw [grants, hended]; rfl

/-- A call that is not granted leaves the session as it is. -/
theorem perform_eq_self {s : Session} {op : Operation} (hgrants : s.grants op = false)
    (now : Instant) : (s.perform op now).2 = s := by
  have hperformed := s.performed op now
  generalize s.perform op now = outcome at hperformed
  cases hperformed with
  | granted hgranted => rw [hgrants] at hgranted; cases hgranted
  | refused => rfl

/-- A history of calls begins with its first call. -/
theorem performAll_cons (s : Session) (op : Operation) (now : Instant)
    (history : List (Operation × Instant)) :
    s.performAll ((op, now) :: history) = (s.perform op now).2.performAll history := rfl

/-- Whatever the session is like, calls on it are atomic: the answer tells whether the call was
granted, and a call that was not has changed nothing. No call on a session that has ended is
granted, so no history of calls changes it. -/
theorem perform_atomic (s : Session) :
    (∀ op now, ((s.perform op now).1.isRefusal = true ↔ s.grants op = false) ∧
      ((s.perform op now).1.isRefusal = true → (s.perform op now).2 = s)) ∧
    (s.status.isTerminal = true →
      (∀ op now, (s.perform op now).1.isRefusal = true) ∧
      ∀ history, s.performAll history = s) := by
  have hrefused : ∀ op now, (s.perform op now).1.isRefusal = true ↔ s.grants op = false := by
    intro op now
    rw [isRefusal_perform, Bool.not_eq_true']
  constructor
  · intro op now
    exact ⟨hrefused op now, fun hanswer => perform_eq_self ((hrefused op now).mp hanswer) now⟩
  · intro hended
    have hgrants := not_grants_of_isTerminal hended
    refine ⟨fun op now => (hrefused op now).mpr (hgrants op), fun history => ?_⟩
    induction history with
    | nil => rfl
    | cons call history ih =>
      obtain ⟨op, now⟩ := call
      rw [performAll_cons, perform_eq_self (hgrants op), ih]

end Session

end ArtifactPipeline
