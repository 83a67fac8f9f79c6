import ArtifactPipeline.World

/-!
# What a journal amounts to

The journal of a world is a list of effects. A tally reads off it what matters to the course of a
session: the operations on which the next step depends, the calls of the model, the entries for the
audit trail and for human review, what was published, and the numbers of the announced repairs. The
tally of two journals in a row is the sum of their tallies. A second reading replays the calls that
succeeded on a store.
-/

namespace ArtifactPipeline

/-- Whether a request asks for a repair. A repair is the only request without words of the user. -/
def ModelRequest.isRepair (r : ModelRequest) : Bool := r.messages.all (·.role != .user)

/-- The kinds of operations without whose answer the work cannot go on. -/
inductive GateKind where
  /-- A call of the model for a classification or for a component. -/
  | model
  /-- A reading of patterns. -/
  | patterns
  /-- A reading of the rules of a tenant. -/
  | rules
  /-- A reading of the packages of a tenant. -/
  | packages
  deriving DecidableEq

/-- An operation without whose answer the work cannot go on, and why it failed if it did. -/
structure Gate where
  kind : GateKind
  failure : Option Failure := none

namespace Gate

/-- How many validations came to a verdict: each of them read the rules of a tenant and right after
that its packages. -/
def verdicts : List Gate → Nat
  | ⟨.rules, none⟩ :: ⟨.packages, none⟩ :: rest => verdicts rest + 1
  | _ :: rest => verdicts rest
  | [] => 0

/-- The operations of a number of validations that came to a verdict. -/
def validated (count : Nat) : List Gate :=
  (List.replicate count [⟨.rules, none⟩, ⟨.packages, none⟩]).flatten

/-- Where nothing is validated there are no operations. -/
@[simp] theorem validated_zero : validated 0 = [] := rfl

/-- One validation more reads the rules and the packages once more. -/
theorem validated_succ (count : Nat) :
    validated (count + 1) = ⟨.rules, none⟩ :: ⟨.packages, none⟩ :: validated count := rfl

/-- Validations that came to a verdict may be counted from the end as well. -/
theorem validated_add (m n : Nat) : validated (m + n) = validated m ++ validated n := by
  simp only [validated, ← List.flatten_append, List.replicate_append_replicate]

/-- A validation that came to a verdict was refused nothing. -/
theorem failure_of_mem_validated {count : Nat} {g : Gate} (hg : g ∈ validated count) :
    g.failure = none := by
  induction count with
  | zero => simp at hg
  | succ count ih =>
    simp only [validated_succ, List.mem_cons] at hg
    rcases hg with rfl | rfl | hg
    · rfl
    · rfl
    · exact ih hg

/-- Without operations there is no verdict. -/
@[simp] theorem verdicts_nil : verdicts [] = 0 := rfl

/-- A validation begins with the rules, so nothing before them counts. -/
theorem verdicts_append_of_no_rules {before : List Gate} (rest : List Gate)
    (hbefore : ∀ g ∈ before, g.kind ≠ .rules) : verdicts (before ++ rest) = verdicts rest := by
  induction before with
  | nil => rfl
  | cons g before ih =>
    have hg : g.kind ≠ .rules := hbefore g (by simp)
    have ih := ih fun g' hg' => hbefore g' (by simp [hg'])
    obtain ⟨kind, failure⟩ := g
    cases kind with
    | rules => exact absurd rfl hg
    | model | patterns | packages => simpa only [List.cons_append, verdicts] using ih

/-- Validations that came to a verdict count in front of any other operations. -/
theorem verdicts_validated_append (count : Nat) (rest : List Gate) :
    verdicts (validated count ++ rest) = count + verdicts rest := by
  induction count with
  | zero => simp
  | succ count ih =>
    simp only [validated_succ, List.cons_append, verdicts, ih]
    omega

/-- As many verdicts as validations are counted. -/
@[simp] theorem verdicts_validated (count : Nat) : verdicts (validated count) = count := by
  simpa using verdicts_validated_append count []

/-- A validation that breaks off has no verdict. -/
theorem verdicts_broken (kind : GateKind) (e : Failure) (rest : List Gate) :
    verdicts (⟨kind, some e⟩ :: rest) = verdicts rest := by
  cases kind <;> simp [verdicts]

example (e : Failure) : verdicts (⟨.model, none⟩ :: validated 2 ++ [⟨.rules, none⟩,
    ⟨.packages, some e⟩]) = 2 := rfl

end Gate

/-- The number of the repair that a log entry with some message and details announces. -/
def repairNumber? (message : String) (data : Json.Value) : Option Nat :=
  if message = "Repairing component" then
    match data with
    | .obj [("attempt", .nat n), _] => some n
    | _ => none
  else none

/-- Only an entry with the words for a repair announces one, whatever its details say. -/
theorem repairNumber?_of_ne {message : String} (data : Json.Value)
    (h : message ≠ "Repairing component") : repairNumber? message data = none := if_neg h

namespace Effect

/-- Why an operation failed, if it did. -/
def failureOf {α : Type} : Except Failure α → Option Failure
  | .ok _ => none
  | .error e => some e

/-- The effect as an operation without whose answer the work cannot go on. -/
def gate? : Effect → Option Gate
  | store (.listPatterns _) e => some ⟨.patterns, e.map StoreError.toFailure⟩
  | store (.activeRules _) e => some ⟨.rules, e.map StoreError.toFailure⟩
  | store (.allowlist _) e => some ⟨.packages, e.map StoreError.toFailure⟩
  | model request result => if request.isRepair then none else some ⟨.model, failureOf result⟩
  | _ => none

/-- The effect as a call of the model. -/
def modelCall? : Effect → Option (ModelRequest × Except Failure ModelResponse)
  | model request result => some (request, result)
  | _ => none

/-- The entry that was offered to the audit trail. -/
def audit? : Effect → Option AuditEntry
  | store (.appendAudit entry) _ => some entry
  | _ => none

/-- The record that was offered for human review. -/
def review? : Effect → Option ReviewRecord
  | store (.createReview record) _ => some record
  | _ => none

/-- The text that was handed to the publisher. -/
def published? : Effect → Option String
  | publish _ code _ => some code
  | _ => none

/-- The log entry that was offered to the store. -/
def logged? : Effect → Option LogEntry
  | store (.appendLog entry) _ => some entry
  | _ => none

/-- The number of the repair that was announced in the log. -/
def announced? (e : Effect) : Option Nat :=
  e.logged?.bind fun entry => repairNumber? entry.message entry.data

end Effect

/-- What a journal amounts to. -/
structure Tally where
  gates : List Gate := []
  calls : List (ModelRequest × Except Failure ModelResponse) := []
  audits : List AuditEntry := []
  reviews : List ReviewRecord := []
  published : List String := []
  /-- The numbers of the repairs that were announced in the log. -/
  numbers : List Nat := []

namespace Tally

/-- What two journals in a row amount to. -/
protected def append (s t : Tally) : Tally where
  gates := s.gates ++ t.gates
  calls := s.calls ++ t.calls
  audits := s.audits ++ t.audits
  reviews := s.reviews ++ t.reviews
  published := s.published ++ t.published
  numbers := s.numbers ++ t.numbers

/-- Tallies are put together part by part. -/
instance : Append Tally := ⟨Tally.append⟩

/-- The operations of both pieces of work, in their order. -/
@[simp] theorem gates_append (s t : Tally) : (s ++ t).gates = s.gates ++ t.gates := rfl

/-- The calls of the model of both pieces of work, in their order. -/
@[simp] theorem calls_append (s t : Tally) : (s ++ t).calls = s.calls ++ t.calls := rfl

/-- The entries for the audit trail of both pieces of work, in their order. -/
@[simp] theorem audits_append (s t : Tally) : (s ++ t).audits = s.audits ++ t.audits := rfl

/-- The records for human review of both pieces of work, in their order. -/
@[simp] theorem reviews_append (s t : Tally) : (s ++ t).reviews = s.reviews ++ t.reviews := rfl

/-- The texts that both pieces of work handed to the publisher, in their order. -/
@[simp] theorem published_append (s t : Tally) :
    (s ++ t).published = s.published ++ t.published := rfl

/-- The repairs that both pieces of work announced, in their order. -/
@[simp] theorem numbers_append (s t : Tally) : (s ++ t).numbers = s.numbers ++ t.numbers := rfl

/-- Tallies with the same six parts are the same. -/
@[ext] theorem ext' {s t : Tally} (gates : s.gates = t.gates) (calls : s.calls = t.calls)
    (audits : s.audits = t.audits) (reviews : s.reviews = t.reviews)
    (published : s.published = t.published) (numbers : s.numbers = t.numbers) : s = t := by
  cases s
  cases t
  simp_all

/-- Work without effects adds nothing to a tally. -/
@[simp] theorem append_empty (t : Tally) : t ++ ({} : Tally) = t := by
  ext <;> simp

/-- It does not matter which of three pieces of work are put together first. -/
theorem append_assoc (s t u : Tally) : s ++ t ++ u = s ++ (t ++ u) := by
  ext <;> simp

end Tally

/-- Reads off a journal what it amounts to. -/
def tally (effects : List Effect) : Tally where
  gates := effects.filterMap Effect.gate?
  calls := effects.filterMap Effect.modelCall?
  audits := effects.filterMap Effect.audit?
  reviews := effects.filterMap Effect.review?
  published := effects.filterMap Effect.published?
  numbers := effects.filterMap Effect.announced?

/-- A journal that is continued amounts to the sum of its parts. -/
@[simp] theorem tally_append (xs ys : List Effect) : tally (xs ++ ys) = tally xs ++ tally ys := by
  ext <;> simp [tally]

/-- A call of the model that does not ask for a repair decides about the next step. -/
theorem tally_model {request : ModelRequest} (result : Except Failure ModelResponse)
    (hrequest : request.isRepair = false) :
    tally [.model request result] =
      { gates := [⟨.model, Effect.failureOf result⟩], calls := [(request, result)] } := by
  simp [tally, Effect.gate?, Effect.modelCall?, Effect.audit?, Effect.review?,
    Effect.published?, Effect.announced?, Effect.logged?, List.filterMap_cons, hrequest]

/-- A call for a repair may fail without ending the work. -/
theorem tally_repair {request : ModelRequest} (result : Except Failure ModelResponse)
    (hrequest : request.isRepair = true) :
    tally [.model request result] = { calls := [(request, result)] } := by
  simp [tally, Effect.gate?, Effect.modelCall?, Effect.audit?, Effect.review?,
    Effect.published?, Effect.announced?, Effect.logged?, List.filterMap_cons, hrequest]

/-- The tally of work before the first validation: nothing but operations that succeeded, and at
most a number of calls of the model, none of which asks for a repair. -/
structure Tally.Opening (limit : Nat) (t : Tally) : Prop where
  gates : ∀ g ∈ t.gates, g.kind ≠ .rules ∧ g.failure = none
  calls : t.calls.length ≤ limit
  repairs : ∀ call ∈ t.calls, call.1.isRepair = false
  audits : t.audits = []
  reviews : t.reviews = []
  published : t.published = []
  numbers : t.numbers = []

/-- No work at all may stand before the first validation. -/
theorem Tally.Opening.empty : ({} : Tally).Opening 0 :=
  ⟨by simp, by simp, by simp, rfl, rfl, rfl, rfl⟩

/-- An operation that succeeded belongs to the work before the first validation, unless it reads
rules. -/
theorem Tally.Opening.gate {kind : GateKind} (hkind : kind ≠ .rules) :
    ({ gates := [⟨kind, none⟩] } : Tally).Opening 0 :=
  ⟨by simpa using hkind, by simp, by simp, rfl, rfl, rfl, rfl⟩

/-- One call of the model that asks for no repair may stand before the first validation. -/
theorem Tally.Opening.call {request : ModelRequest} {result : Except Failure ModelResponse}
    (hrequest : request.isRepair = false) :
    ({ calls := [(request, result)] } : Tally).Opening 1 :=
  ⟨by simp, by simp, by simpa using hrequest, rfl, rfl, rfl, rfl⟩

/-- The limit for the calls may be raised. -/
theorem Tally.Opening.weaken {m n : Nat} {t : Tally} (h : t.Opening m) (hmn : m ≤ n) :
    t.Opening n :=
  { h with calls := Nat.le_trans h.calls hmn }

/-- The limits for two pieces of work before the first validation are added. -/
theorem Tally.Opening.append {m n : Nat} {s t : Tally} (hs : s.Opening m) (ht : t.Opening n) :
    (s ++ t).Opening (m + n) where
  gates g hg := by
    rcases List.mem_append.mp hg with hg | hg
    · exact hs.gates g hg
    · exact ht.gates g hg
  calls := by
    have hscalls := hs.calls
    have htcalls := ht.calls
    simp only [Tally.calls_append, List.length_append]
    omega
  repairs call hcall := by
    rcases List.mem_append.mp hcall with hcall | hcall
    · exact hs.repairs call hcall
    · exact ht.repairs call hcall
  audits := by simp [hs.audits, ht.audits]
  reviews := by simp [hs.reviews, ht.reviews]
  published := by simp [hs.published, ht.published]
  numbers := by simp [hs.numbers, ht.numbers]

/-- Whether the work on sessions calls a method. It leaves the rules, the allowed packages and the
texts of the patterns alone. -/
def StoreMethod.isRoutine : StoreMethod → Bool
  | .createSession | .updateSession | .appendLog | .listPatterns | .getPattern
  | .recordPatternUsage | .activeRules | .allowlist | .appendAudit | .createReview => true
  | _ => false

/-- Whether the work on sessions may have this effect. -/
def Effect.isRoutine : Effect → Bool
  | store call _ => call.method.isRoutine
  | _ => true

namespace MemoryStore

/-- The store after something was done to the world. Only a call that succeeded changes it. -/
def replay (m : MemoryStore) : Effect → MemoryStore
  | .store call none =>
    match m.answer call with
    | .ok (_, next) => next
    | .error _ => m
  | _ => m

/-- What a part of the store gains from each effect, it gains from all of them in order. -/
theorem foldl_replay_append {α : Type} {part : MemoryStore → List α} {gain : Effect → Option α}
    (m : MemoryStore) {effects : List Effect}
    (hstep : ∀ m, ∀ e ∈ effects, part (replay m e) = part m ++ (gain e).toList) :
    part (effects.foldl replay m) = part m ++ effects.filterMap gain := by
  induction effects generalizing m with
  | nil => simp
  | cons e effects ih =>
    have hrest := ih (m.replay e) fun m e' he' => hstep m e' (by simp [he'])
    rw [List.foldl_cons, hrest, hstep m e (by simp), List.append_assoc]
    congr 1
    cases h : gain e <;> simp [h]

/-- What decides about components: the rules and the allowed packages. -/
structure Regime where
  rules : List Rule
  globalAllowlist : List String
  tenantAllowlists : List (String × List String)

/-- The regime of a store. -/
def regime (m : MemoryStore) : Regime where
  rules := m.rules
  globalAllowlist := m.globalAllowlist
  tenantAllowlists := m.tenantAllowlists

/-- No call that the work on sessions makes changes what decides about components. -/
theorem regime_of_answer {m next : MemoryStore} {c : StoreCall} {answer : c.Answer}
    (hc : c.method.isRoutine = true) (h : m.answer c = .ok (answer, next)) :
    next.regime = m.regime := by
  cases c with
  | createSession | updateSession | recordPatternUsage =>
    simp only [MemoryStore.answer] at h
    split at h <;> cases h
    rfl
  | appendLog | listPatterns | getPattern | activeRules | allowlist | appendAudit
  | createReview => cases h; rfl
  | getSession | listSessions | sessionLogs | savePattern | upsertRule
  | addAllowedDependency => cases hc

/-- Replaying what the work on sessions did leaves the rules and the allowed packages alone. -/
theorem replay_regime (m : MemoryStore) {e : Effect} (he : e.isRoutine = true) :
    (m.replay e).regime = m.regime := by
  match e, he with
  | .model .., _ | .publish .., _ | .store _ (some _), _ => rfl
  | .store call none, he =>
    simp only [replay]
    split
    · next h => exact regime_of_answer he h
    · rfl

/-- The work on sessions leaves the rules and the allowed packages alone. -/
theorem foldl_replay_regime (m : MemoryStore) {effects : List Effect}
    (heffects : ∀ e ∈ effects, e.isRoutine = true) :
    (effects.foldl replay m).regime = m.regime := by
  induction effects generalizing m with
  | nil => rfl
  | cons e effects ih =>
    rw [List.foldl_cons, ih _ fun e' he' => heffects e' (by simp [he']),
      replay_regime m (heffects e (by simp))]

end MemoryStore

end ArtifactPipeline
