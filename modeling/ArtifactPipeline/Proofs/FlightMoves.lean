import ArtifactPipeline.Proofs.StateMachine
import ArtifactPipeline.Proofs.WorldMoves
import ArtifactPipeline.Run.Phase

/-!
# Flights move

A session in flight moves with the world around it. What it says in the log is what the journal
offers to the log of the store, and what it was asked to do never changes. Each piece of work below
is described by what its effects amount to and by the session after it.
-/

namespace ArtifactPipeline

open Json

variable {σ π α β : Type}

/-- What is fixed for a session when it is opened: its name, what it was asked to do and by whom,
and how often it may be repaired. -/
structure Origin where
  id : SessionId
  tenant : String
  user : String
  prompt : String
  mood : Mood
  maxAttempts : Nat

/-- What was fixed for a session. -/
def Session.origin (s : Session) : Origin where
  id := s.id
  tenant := s.tenant
  user := s.user
  prompt := s.prompt
  mood := s.mood
  maxAttempts := s.maxAttempts

/-- A session without its bookkeeping: the moments of its phases, its tokens and their price. -/
def Session.core (s : Session) : Session :=
  { s with timeline := { created := s.timeline.created }, usage := {}, cost := 0.0 }

/-- The moment of the creation stays when a phase is entered. -/
theorem Timeline.enter_created (t : Timeline) (next : Status) (now : Time.Instant) :
    (t.enter next now).created = t.created := by
  cases next <;> rfl

namespace World

/-- The work on a session takes a world to another one without a word in the log, and its effects
amount to a tally. -/
def Yields (t : Tally) (w w' : World σ π) : Prop :=
  ∃ effects, w.Moves effects w' ∧ effects.filterMap Effect.logged? = [] ∧ tally effects = t

/-- Effects among which there is no log entry yield their tally. -/
theorem Moves.yields {effects : List Effect} {w w' : World σ π} (h : w.Moves effects w')
    (hlog : effects.filterMap Effect.logged? = []) : w.Yields (tally effects) w' :=
  ⟨effects, h, hlog, rfl⟩

/-- A world that stays as it is yields nothing. -/
theorem Yields.refl (w : World σ π) : w.Yields {} w := (Moves.refl w).yields rfl

/-- The tallies of two pieces of work on a world are added. -/
theorem Yields.trans {s t : Tally} {w₁ w₂ w₃ : World σ π} (h₁ : w₁.Yields s w₂)
    (h₂ : w₂.Yields t w₃) : w₁.Yields (s ++ t) w₃ := by
  obtain ⟨xs, hmoves₁, hlog₁, rfl⟩ := h₁
  obtain ⟨ys, hmoves₂, hlog₂, rfl⟩ := h₂
  exact ⟨xs ++ ys, hmoves₁.trans hmoves₂, by simp [hlog₁, hlog₂], tally_append xs ys⟩

end World

namespace Flight

/-- The work on a session takes a flight to another one with some effects. -/
structure Moves (effects : List Effect) (f f' : Flight σ π) : Prop where
  world : f.world.Moves effects f'.world
  history : f'.run.history = f.run.history ++ effects.filterMap Effect.logged?
  pending : f'.run.pending = f.run.pending ++ effects.filterMap Effect.logged?
  origin : f'.session.origin = f.session.origin

/-- The effects of two pieces of work on a flight follow each other, in the world as well as in
the log of the session. -/
theorem Moves.trans {xs ys : List Effect} {f₁ f₂ f₃ : Flight σ π} (h₁ : f₁.Moves xs f₂)
    (h₂ : f₂.Moves ys f₃) : f₁.Moves (xs ++ ys) f₃ where
  world := h₁.world.trans h₂.world
  history := by rw [h₂.history, h₁.history, List.filterMap_append, List.append_assoc]
  pending := by rw [h₂.pending, h₁.pending, List.filterMap_append, List.append_assoc]
  origin := h₂.origin.trans h₁.origin

/-- The work on a session takes a flight to another one, and its effects amount to a tally. -/
def Yields (t : Tally) (f f' : Flight σ π) : Prop :=
  ∃ effects, f.Moves effects f' ∧ tally effects = t

/-- The tallies of two pieces of work on a flight are added. -/
theorem Yields.trans {s t : Tally} {f₁ f₂ f₃ : Flight σ π} (h₁ : f₁.Yields s f₂)
    (h₂ : f₂.Yields t f₃) : f₁.Yields (s ++ t) f₃ := by
  obtain ⟨xs, hmoves₁, rfl⟩ := h₁
  obtain ⟨ys, hmoves₂, rfl⟩ := h₂
  exact ⟨xs ++ ys, hmoves₁.trans hmoves₂, tally_append xs ys⟩

/-- Work that amounts to nothing may go before other work. -/
theorem Yields.quietly {t : Tally} {f₁ f₂ f₃ : Flight σ π} (h₁ : f₁.Yields {} f₂)
    (h₂ : f₂.Yields t f₃) : f₁.Yields t f₃ := h₁.trans h₂

/-- Work that amounts to nothing may follow other work. -/
theorem Yields.then_quietly {t : Tally} {f₁ f₂ f₃ : Flight σ π} (h₁ : f₁.Yields t f₂)
    (h₂ : f₂.Yields {} f₃) : f₁.Yields t f₃ := by
  simpa using h₁.trans h₂

/-- What a session was asked to do does not change in the course of its work. -/
theorem Yields.origin {t : Tally} {f f' : Flight σ π} (h : f.Yields t f') :
    f'.session.origin = f.session.origin := by
  obtain ⟨effects, hmoves, -⟩ := h
  exact hmoves.origin

/-- The work on a session does not change the verdict on any component. -/
theorem Yields.assess {t : Tally} {f f' : Flight σ π} (h : f.Yields t f') :
    f'.world.assess = f.world.assess := by
  obtain ⟨effects, hmoves, -⟩ := h
  exact hmoves.world.assess

/-- Work on the world alone moves the flight in it. -/
theorem Yields.ofWorld {t : Tally} {f : Flight σ π} {w : World σ π} (h : f.world.Yields t w) :
    f.Yields t { f with world := w } := by
  obtain ⟨effects, hmoves, hlog, rfl⟩ := h
  refine ⟨effects, ⟨hmoves, ?_, ?_, rfl⟩, rfl⟩ <;> simp [hlog]

/-- A change of the session alone has no effects. -/
theorem Yields.ofRun {f : Flight σ π} {run : SessionRun} (hhistory : run.history = f.run.history)
    (hpending : run.pending = f.run.pending) (horigin : run.session.origin = f.session.origin) :
    f.Yields {} { f with run } :=
  ⟨[], ⟨World.Moves.refl _, by simp [hhistory], by simp [hpending], horigin⟩, rfl⟩

/-- A flight has the session that it was given. -/
@[simp] theorem withSession_session (f : Flight σ π) (s : Session) :
    (f.withSession s).session = s := rfl

/-- A change of the session yields nothing as long as its origin stays. -/
theorem withSession_yields (f : Flight σ π) {s : Session} (h : s.origin = f.session.origin) :
    f.Yields {} (f.withSession s) := Yields.ofRun rfl rfl h

/-- A log entry leaves the session alone. -/
@[simp] theorem log_session (level : LogLevel) (message : String) (data : Value)
    (f : Flight σ π) : (f.log level message data).session = f.session := rfl

/-- An entry of the log is offered to the log of the store. -/
theorem log_moves (level : LogLevel) (message : String) (data : Value) (f : Flight σ π) :
    ∃ failure, f.world.Moves [.store (.appendLog {
      session := f.session.id, phase := f.session.status, level, message, data
      time := f.world.now.1 }) failure] (f.log level message data).world := by
  obtain ⟨failure, -, hmoves⟩ := f.world.now.2.write_moves (.appendLog _) rfl
  exact ⟨failure, f.world.now_moves.trans hmoves⟩

/-- A log entry amounts to nothing but the repair that it announces. -/
theorem log_yields (level : LogLevel) (message : String) (data : Value) (f : Flight σ π) :
    f.Yields { numbers := (repairNumber? message data).toList } (f.log level message data) := by
  obtain ⟨failure, hmoves⟩ := f.log_moves level message data
  refine ⟨_, ⟨hmoves, rfl, rfl, rfl⟩, ?_⟩
  ext <;> simp [tally, Effect.gate?, Effect.modelCall?, Effect.audit?, Effect.review?,
    Effect.published?, Effect.announced?, Effect.logged?, List.filterMap_cons]
  cases repairNumber? message data <;> rfl

/-- An entry that announces no repair does not count for anything in the tally. -/
theorem log_quiet (level : LogLevel) {message : String} {data : Value} (f : Flight σ π)
    (hquiet : repairNumber? message data = none) : f.Yields {} (f.log level message data) := by
  have hyields := f.log_yields level message data
  rwa [hquiet] at hyields

/-- Storing a session leaves it alone. -/
@[simp] theorem persist_session (f : Flight σ π) : f.persist.session = f.session := rfl

/-- Storing a session yields nothing. -/
theorem persist_yields (f : Flight σ π) : f.Yields {} f.persist := by
  obtain ⟨failure, -, hmoves⟩ := f.world.write_moves (.updateSession f.session) rfl
  exact Yields.ofWorld ⟨_, hmoves, rfl, rfl⟩

/-- Counting the uses of patterns leaves the session alone. -/
@[simp] theorem countPatterns_session (success : Bool) (f : Flight σ π) :
    (f.countPatterns success).session = f.session := rfl

/-- Counting the uses of patterns yields nothing. -/
theorem countPatterns_yields (success : Bool) (f : Flight σ π) :
    f.Yields {} (f.countPatterns success) := by
  have hcount (references : List PatternReference) (w : World σ π) :
      w.Yields {} (references.foldl
        (fun w reference => (w.write (.recordPatternUsage reference.id success)).2) w) := by
    induction references generalizing w with
    | nil => exact .refl w
    | cons reference references ih =>
      obtain ⟨failure, -, hmoves⟩ :=
        w.write_moves (.recordPatternUsage reference.id success) rfl
      have hfirst : w.Yields {} (w.write (.recordPatternUsage reference.id success)).2 :=
        ⟨_, hmoves, rfl, rfl⟩
      exact hfirst.trans (ih _)
  exact Yields.ofWorld (hcount _ _)

end Flight

/-- A session that has not ended may be changed. -/
theorem Session.modify_eq {s : Session} (change : Session → Session)
    (h : s.status.isTerminal = false) : s.modify change = .ok (change s) := by
  rw [Session.modify, h]
  rfl

/-- A session that has not ended may fail. -/
theorem Session.fail_eq {s : Session} (reason : String) (now : Time.Instant)
    (h : s.status.isTerminal = false) :
    s.fail reason now = .ok { s with
      status := .failed, timeline := s.timeline.enter .failed now, error := some reason } := by
  have hedge : s.status.canMoveTo .failed = true := by
    rw [Status.canMoveTo_failed, h]
    rfl
  rw [Session.fail, Session.transition, if_pos hedge]
  rfl

namespace FlightWork

/-- Work that reads the flight first goes on with that flight. -/
theorem get_bind (g : Flight σ π → FlightWork σ π β) (f : Flight σ π) :
    (get >>= g) f = g f f := rfl

/-- Work that changes the flight first goes on with the changed flight. -/
theorem modify_bind (change : Flight σ π → Flight σ π) (g : PUnit → FlightWork σ π β)
    (f : Flight σ π) : (modify change >>= g) f = g ⟨⟩ (change f) := rfl

/-- Work that changes the session first goes on with the changed session, if the change is
granted. -/
theorem step_bind {change : Session → Except Failure Session} {f : Flight σ π} {s : Session}
    (g : Unit → FlightWork σ π β) (h : change f.session = .ok s) :
    (step change >>= g) f = g () (f.withSession s) :=
  bind_ok g (by simp [step, h])

end FlightWork

namespace Flight

/-- The flight with the clock read. -/
def timed (f : Flight σ π) : Flight σ π := { f with world := f.world.now.2 }

/-- The flight after its session has moved to another status. -/
def moved (next : Status) (message : String) (data : Value) (f : Flight σ π) : Flight σ π :=
  (Flight.log .info message data (f.timed.withSession { f.session with
    status := next, timeline := f.session.timeline.enter next f.world.now.1 })).persist

/-- The flight after its session has failed. -/
def failed (failure : Failure) (f : Flight σ π) : Flight σ π :=
  (Flight.log .error ("Failed during " ++ f.session.status.label)
    (.obj [("error", .str failure.message), ("phase", f.session.status.toJson)])
    (f.timed.withSession { f.session with
      status := .failed
      timeline := f.session.timeline.enter .failed f.world.now.1
      error := some failure.message })).persist

/-- Reading the clock yields nothing. -/
theorem timed_yields (f : Flight σ π) : f.Yields {} f.timed :=
  .ofWorld ⟨[], f.world.now_moves, rfl, rfl⟩

end Flight

namespace FlightWork

/-- The work on a flight reads the clock of its world. -/
theorem now_eq (f : Flight σ π) : now f = .ok f.world.now.1 f.timed := rfl

/-- A move along an edge succeeds, and the flight is moved. -/
theorem advance_eq {f : Flight σ π} (next : Status) (message : String) (data : Value)
    (h : f.session.status.canMoveTo next = true) :
    advance next message data f = .ok () (f.moved next message data) := by
  have hstep : f.timed.session.transition next f.world.now.1 = .ok { f.session with
      status := next, timeline := f.session.timeline.enter next f.world.now.1 } := if_pos h
  rw [advance, bind_ok _ (now_eq f), step_bind _ hstep, modify_bind]
  rfl

/-- A session that has not ended can always be failed. -/
theorem fail_eq {f : Flight σ π} (failure : Failure)
    (hopen : f.session.status.isTerminal = false) :
    fail failure f = .ok () (f.failed failure) := by
  have hfail := Session.fail_eq (s := f.timed.session) failure.message f.world.now.1 hopen
  rw [fail, get_bind, bind_ok _ (now_eq f), step_bind _ hfail, modify_bind]
  rfl

/-- A session moves along an edge of its state machine; the move is logged and stored. -/
theorem advance_spec {f : Flight σ π} (next : Status) (message : String) (data : Value)
    (h : f.session.status.canMoveTo next = true) :
    ∃ f', advance next message data f = .ok () f' ∧
      f.Yields { numbers := (repairNumber? message data).toList } f' ∧
      f'.session.core = { f.session.core with status := next } := by
  let s : Session := { f.session with
    status := next, timeline := f.session.timeline.enter next f.world.now.1 }
  refine ⟨_, advance_eq next message data h, ?_, ?_⟩
  · have hentered := f.timed_yields.quietly (f.timed.withSession_yields (s := s) rfl)
    have hlogged := hentered.quietly (Flight.log_yields .info message data _)
    exact hlogged.then_quietly (Flight.persist_yields _)
  · simp [Flight.moved, Session.core, Timeline.enter_created]

/-- A move that announces no repair amounts to nothing. -/
theorem advance_quiet {f : Flight σ π} (next : Status) (message : String) (data : Value)
    (h : f.session.status.canMoveTo next = true) (hquiet : repairNumber? message data = none) :
    ∃ f', advance next message data f = .ok () f' ∧ f.Yields {} f' ∧
      f'.session.core = { f.session.core with status := next } := by
  have hspec := advance_spec next message data h
  rwa [hquiet] at hspec

/-- Work on the world that succeeds gives its value to the flight, which has the world after it.
-/
theorem onWorld_ok {work : Work σ π α} {f : Flight σ π} {a : α} {w : World σ π}
    (h : work f.world = .ok a w) : onWorld work f = .ok a { f with world := w } := by
  simp [onWorld, h]

/-- Work on the world that breaks off breaks off the work on the flight, which has the world
after it nevertheless. -/
theorem onWorld_error {work : Work σ π α} {f : Flight σ π} {e : Failure} {w : World σ π}
    (h : work f.world = .error e w) : onWorld work f = .error e { f with world := w } := by
  simp [onWorld, h]

end FlightWork

end ArtifactPipeline
