import ArtifactPipeline.Proofs.Composition
import ArtifactPipeline.Proofs.TenantIsolation
import ArtifactPipeline.Proofs.Within
import Mathlib.Data.Finset.Card

/-!
# Validating again

A cache answers as if it had never been asked before, and keeps one entry for each pattern that it
has been asked for. So a validator comes to the verdicts of a new one, whatever it has checked
before and whatever has been done to the store meanwhile. A component that is validated again under
the same rules and with the same allowed packages gets the same verdict, and validations in between
change neither.
-/

namespace ArtifactPipeline

open Regex

variable {σ π : Type}

/-! ## Histories of a cache -/

namespace RegexCache

variable {c : RegexCache} {asked : Finset String}

/-- Asks for patterns one after another. -/
def getAll : List String → RegexCache → List (Option Program) × RegexCache
  | [], c => ([], c)
  | pattern :: patterns, c =>
    let (program, c) := c.get pattern
    let (programs, c) := getAll patterns c
    (program :: programs, c)

/-- What a cache answers does not depend on what it has been asked before. -/
theorem getAll_fst (patterns : List String) (c : RegexCache) :
    (getAll patterns c).1 = patterns.map c.program := by
  induction patterns generalizing c with
  | nil => rfl
  | cons pattern patterns ih =>
    simp only [getAll, List.map_cons, ih, get_fst, program_get]

/-- A cache has one entry for each pattern that it has been asked for. -/
structure Records (c : RegexCache) (asked : Finset String) : Prop where
  nodup : (c.compiled.map (·.1)).Nodup
  toFinset_eq : (c.compiled.map (·.1)).toFinset = asked

namespace Records

/-- An empty cache has not been asked for anything. -/
theorem start (limit : Nat) : Records { limit } ∅ := ⟨List.nodup_nil, rfl⟩

/-- A cache has one more entry if it is asked for a new pattern, and as many if it has it
already. -/
theorem get (h : c.Records asked) (pattern : String) :
    (c.get pattern).2.Records (insert pattern asked) := by
  unfold RegexCache.get
  split
  · next known hlookup =>
    have hknown : pattern ∈ c.compiled.map (·.1) := by
      by_contra hnew
      rw [lookup_eq_none_iff.mpr hnew] at hlookup
      cases hlookup
    have hasked : pattern ∈ asked := h.toFinset_eq ▸ List.mem_toFinset.mpr hknown
    rwa [Finset.insert_eq_of_mem hasked]
  · next hlookup =>
    refine ⟨List.nodup_cons.mpr ⟨lookup_eq_none_iff.mp hlookup, h.nodup⟩, ?_⟩
    rw [List.map_cons, List.toFinset_cons, h.toFinset_eq]

/-- A cache has an entry for each of the patterns that it is asked for one after another. -/
theorem getAll (h : c.Records asked) (patterns : List String) :
    (getAll patterns c).2.Records (asked ∪ patterns.toFinset) := by
  induction patterns generalizing c asked with
  | nil => simpa [RegexCache.getAll] using h
  | cons pattern patterns ih =>
    rw [List.toFinset_cons, Finset.union_insert, ← Finset.insert_union]
    exact ih (h.get pattern)

/-- A cache has as many entries as patterns that it has been asked for. -/
theorem size_eq (h : c.Records asked) : c.size = asked.card := by
  rw [← h.toFinset_eq, List.toFinset_card_of_nodup h.nodup, List.length_map, size]

end Records

end RegexCache

/-! ## Calls of a validator -/

/-- The verdict of a new validator on a component. -/
def Inspection.verdict (limit : Nat) (i : Inspection) : Verdict :=
  Policy.verdict limit i.text i.rules i.allowlist

/-- A component is checked by a validator. -/
inductive ValidatorCall where
  /-- It is checked against rules that are given. -/
  | evaluate (i : Inspection)
  /-- It is validated for a tenant. -/
  | validate (code : String) (session : Option SessionId) (tenant : String)

namespace ValidatorCall

variable {w w' : World σ π} {limit : Nat}

/-- Works on a call. -/
def work : ValidatorCall → Work σ π Verdict
  | evaluate i => modifyGet (·.evaluate i.text i.rules i.allowlist)
  | validate code session tenant => ArtifactPipeline.validate code session tenant

/-- What is checked: for a tenant, a component with the rules that are in force for it and the
packages that it is allowed. -/
def subject (w : World σ π) : ValidatorCall → Inspection
  | evaluate i => i
  | validate code _ tenant =>
    ⟨code, w.store.rules.filter (·.appliesTo tenant), w.store.resolvedAllowlist tenant⟩

/-- Why the store refuses to tell the rules or the allowed packages, if it does. -/
def refusal? (w : World σ π) : ValidatorCall → Option StoreError
  | evaluate _ => none
  | validate .. => (w.refusal? .activeRules).or (w.refusal? .allowlist)

/-- If all patterns have the programs that they are compiled to, a validator comes to the verdict of
a new one. -/
theorem outcome_eq (hprograms : w.regexes.program = compile? limit) (call : ValidatorCall) :
    (call.work.outcome w).1 = reading (call.refusal? w) ((call.subject w).verdict limit) := by
  cases call with
  | evaluate i =>
    exact congrArg Except.ok (Policy.evaluate_congr i.text i.rules i.allowlist hprograms)
  | validate code session tenant =>
    have hassess : w.assess tenant code =
        ((validate code session tenant).subject w).verdict limit :=
      Policy.evaluate_congr _ _ _ hprograms
    rw [← hassess]
    exact Work.outcome_validate code session tenant w

/-- A call reads from the store and adds to the audit trail. -/
theorem work_within (call : ValidatorCall) :
    Work.Within (fun _ => true) (call.work : Work σ π Verdict) := by
  cases call with
  | evaluate i => exact .of_modifyGet fun w => w.evaluate_within i.text i.rules i.allowlist
  | validate code session tenant =>
    exact Work.validate_within code session tenant (fun _ => rfl) (fun _ => rfl) fun _ _ => rfl

/-- What is checked depends on the store only by its rules and allowed packages. -/
theorem subject_congr (h : w'.store.regime = w.store.regime) (call : ValidatorCall) :
    call.subject w' = call.subject w := by
  obtain ⟨hrules, hglobal, htenants⟩ := MemoryStore.Regime.mk.inj h
  cases call with
  | evaluate i => rfl
  | validate code session tenant =>
    simp only [subject, MemoryStore.resolvedAllowlist, MemoryStore.tenantAllowlist, hrules, hglobal,
      htenants]

end ValidatorCall

/-! ## Histories of a validator -/

/-- Something happens in the life of a validator. -/
inductive ValidatorEvent (σ π : Type) where
  | call (call : ValidatorCall)
  /-- The world becomes another one, in which the validator still has the patterns that it has
  compiled. -/
  | elsewhere (w : World σ π)

namespace World

variable {w : World σ π} {limit : Nat}

/-- The world with a new validator. -/
def renewed (limit : Nat) (w : World σ π) : World σ π := { w with regexes := { limit } }

/-- The world after something has happened. -/
def afterEvent (w : World σ π) : ValidatorEvent σ π → World σ π
  | .call call => endState (call.work w)
  | .elsewhere other => { other with regexes := w.regexes }

/-- The world after some things have happened one after another. -/
def afterEvents (w : World σ π) (events : List (ValidatorEvent σ π)) : World σ π :=
  events.foldl afterEvent w

/-- Nothing that happens changes what a pattern is compiled to. -/
theorem afterEvent_programs (w : World σ π) (event : ValidatorEvent σ π) :
    (w.afterEvent event).regexes.program = w.regexes.program := by
  cases event with
  | call call =>
    obtain ⟨_, hmoves, -⟩ := call.work_within w
    exact hmoves.programs
  | elsewhere other => rfl

/-- However much happens, a pattern is compiled to the same program. -/
theorem afterEvents_programs (w : World σ π) (events : List (ValidatorEvent σ π)) :
    (w.afterEvents events).regexes.program = w.regexes.program := by
  induction events generalizing w with
  | nil => rfl
  | cons event events ih => exact (ih _).trans (w.afterEvent_programs event)

/-- Checking components does not change the rules or the allowed packages. -/
theorem afterEvents_calls_regime (w : World σ π) (calls : List ValidatorCall) :
    (w.afterEvents (calls.map .call)).store.regime = w.store.regime := by
  induction calls generalizing w with
  | nil => rfl
  | cons call calls ih =>
    obtain ⟨_, hmoves, -⟩ := call.work_within w
    exact (ih _).trans hmoves.regime

/-- Whatever has happened since a validator was new, its patterns have the programs that they are
compiled to. -/
theorem renewed_afterEvents_programs (limit : Nat) (w : World σ π)
    (events : List (ValidatorEvent σ π)) :
    ((w.renewed limit).afterEvents events).regexes.program = compile? limit :=
  afterEvents_programs _ events

end World

/-- Nothing shows that patterns are compiled once only. A cache gives each pattern the program that
it is compiled to, whatever it has been asked before, and has one entry for each pattern. A
validator comes to the verdict of a new one on the same component, rules and allowed packages,
whatever has happened before. So a call that is about the same comes to the same verdict, at any
later time, and calls in between do not change what a call is about. -/
theorem RegexCache.compiling_once_is_invisible (limit : Nat) :
    (∀ patterns, (getAll patterns { limit }).1 = patterns.map (compile? limit) ∧
      (getAll patterns { limit }).2.size = patterns.toFinset.card) ∧
    ∀ {σ π : Type} (w : World σ π) (events : List (ValidatorEvent σ π)) (call : ValidatorCall),
      let now := (w.renewed limit).afterEvents events
      (call.work.outcome now).1 =
        reading (call.refusal? now) ((call.subject now).verdict limit) ∧
      (call.work.outcome now).1 = (call.work.outcome (now.renewed limit)).1 ∧
      (∀ more (again : ValidatorCall) v v', let later := now.afterEvents more
        again.subject later = call.subject now → (call.work.outcome now).1 = .ok v →
          (again.work.outcome later).1 = .ok v' → v' = v) ∧
      ∀ (calls : List ValidatorCall) v, let later := now.afterEvents (calls.map .call)
        (call.work.outcome now).1 = .ok v → call.refusal? later = none →
          (call.work.outcome later).1 = .ok v := by
  refine ⟨fun patterns => ⟨getAll_fst patterns { limit }, ?_⟩, fun w events call => ?_⟩
  · have hrecords := (Records.start limit).getAll patterns
    rw [hrecords.size_eq, Finset.empty_union]
  · intro now
    have hnow : now.regexes.program = compile? limit := w.renewed_afterEvents_programs limit events
    have hlater : ∀ more, (now.afterEvents more).regexes.program = compile? limit := fun more =>
      (now.afterEvents_programs more).trans hnow
    have houtcome := call.outcome_eq hnow
    refine ⟨houtcome, ?_, ?_, ?_⟩
    · exact houtcome.trans (call.outcome_eq (w := now.renewed limit) rfl).symm
    · intro more again v v' later hsubject hv hv'
      rw [houtcome] at hv
      rw [again.outcome_eq (hlater more), hsubject] at hv'
      rw [eq_none_of_reading hv] at hv
      rw [eq_none_of_reading hv'] at hv'
      exact Except.ok.inj (hv'.symm.trans hv)
    · intro calls v later hv hrefusal
      rw [houtcome] at hv
      have hsubject : call.subject later = call.subject now :=
        call.subject_congr (now.afterEvents_calls_regime calls)
      rw [call.outcome_eq (hlater _), hrefusal, hsubject]
      rwa [eq_none_of_reading hv] at hv

/-- A component is validated for a tenant, then checked against a rule with a broken pattern, and
validated again. -/
theorem RegexCache.compiling_once_is_invisible_again :
    let broken : Rule := { name := "broken", kind := .pattern "(unclosed", severity := .block }
    let w : World ScriptedModel MemoryPublisher := {
      store := MemoryStore.withPolicy 500
      faults := fun _ _ => false
      model := {}
      publisher := { names := fun _ => "artifact" }
      regexes := { limit := 1048576 }
      journal := []
      clock := fun reading => ⟨reading, 0⟩
      readings := 0
      ids := fun number => ⟨number⟩
      begun := 0 }
    let now := (w.renewed 1048576).afterEvents []
    let call := ValidatorCall.validate "eval(x)" none "acme"
    let between := ValidatorCall.evaluate ⟨"eval(x)", [broken], []⟩
    let later := now.afterEvents ([call, between].map .call)
    ∃ v, (call.work.outcome now).1 = .ok v ∧ call.refusal? later = none ∧
      (call.work.outcome later).1 = .ok v := by
  intro broken w now call between later
  obtain ⟨-, hcalls⟩ := RegexCache.compiling_once_is_invisible 1048576
  obtain ⟨hverdict, -, -, hagain⟩ := hcalls w [] call
  have hfirst : (call.work.outcome now).1 = .ok ((call.subject now).verdict 1048576) := hverdict
  have hrefusal : call.refusal? later = none := rfl
  exact ⟨_, hfirst, hrefusal, hagain [call, between] _ hfirst hrefusal⟩

end ArtifactPipeline
