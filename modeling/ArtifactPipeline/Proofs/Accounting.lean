import ArtifactPipeline.Proofs.Runs

/-!
# The accounts of a run

Attempts, calls of the model for a repair and verdicts are counted in different places. Over a whole
run they agree: each attempt is one repair and one verdict that did not pass, and the way in which
the run ended tells what the last round adds to them. The audit trail holds one entry for each
verdict, unless it could not be stored.
-/

namespace ArtifactPipeline

variable {σ π : Type}

namespace MemoryStore

/-- A call that is answered adds to the audit trail what it was asked to add, and nothing else. -/
theorem audit_of_answer {m next : MemoryStore} {c : StoreCall} {answer : c.Answer}
    (hc : c.method.isRoutine = true) (h : m.answer c = .ok (answer, next)) :
    next.audit = m.audit ++ (Effect.store c none).audit?.toList := by
  cases c with
  | createSession | updateSession | recordPatternUsage =>
    simp only [MemoryStore.answer] at h
    split at h <;> cases h
    exact (List.append_nil _).symm
  | appendLog | listPatterns | getPattern | activeRules | allowlist | createReview =>
    cases h
    exact (List.append_nil _).symm
  | appendAudit entry => cases h; rfl
  | getSession | listSessions | sessionLogs | savePattern | upsertRule
  | addAllowedDependency => cases hc

/-- Replaying an effect appends its entry to the audit trail, unless the store refused it. -/
theorem replay_audit (m : MemoryStore) {e : Effect} (he : e.isRoutine = true)
    (hstored : ∀ entry failure, e ≠ .store (.appendAudit entry) (some failure)) :
    (m.replay e).audit = m.audit ++ e.audit?.toList := by
  match e, he with
  | .model .., _ | .publish .., _ => exact (List.append_nil _).symm
  | .store call (some failure), _ =>
    cases call with
    | appendAudit entry => exact absurd rfl (hstored entry failure)
    | _ => exact (List.append_nil _).symm
  | .store call none, he =>
    simp only [replay]
    split
    · next h => exact audit_of_answer he h
    · next h =>
      cases call with
      | appendAudit entry => cases h
      | _ => exact (List.append_nil _).symm

/-- The audit trail gains what it was offered if none of it was refused. -/
theorem foldl_replay_audit (m : MemoryStore) {effects : List Effect}
    (heffects : ∀ e ∈ effects, e.isRoutine = true)
    (hstored : ∀ entry failure, Effect.store (.appendAudit entry) (some failure) ∉ effects) :
    (effects.foldl replay m).audit = m.audit ++ effects.filterMap Effect.audit? :=
  m.foldl_replay_append fun m e he => m.replay_audit (heffects e he) fun entry failure hstore =>
    hstored entry failure (hstore ▸ he)

end MemoryStore

section Course

variable {judge : String → Verdict} {limit : Nat} {s : Session} {t : Tally}

/-- What a course amounts to, up to its last round. -/
theorem Course.parts (h : Course judge limit s t) :
    ∃ calls audits last, LastRound judge limit s last ∧ s.attempts ≤ limit ∧
      t.calls.length ≤ s.attempts + 2 + last.calls.length ∧
      t.calls.filter (·.1.isRepair) = calls ++ last.calls.filter (·.1.isRepair) ∧
      calls.length = s.attempts ∧
      Gate.verdicts t.gates = s.attempts + Gate.verdicts last.gates ∧
      t.numbers = List.range' 1 s.attempts ++ last.numbers ∧
      t.audits = audits ++ last.audits ∧ audits.length = s.attempts ∧
      ∀ entry ∈ audits, entry.session = some s.id ∧ entry.isValid = false := by
  obtain @⟨opening, repairs, last, hopening, hrepairs, hbound, hlast⟩ := h
  have hcalls := hopening.calls
  have hnone : opening.calls.filter (·.1.isRepair) = [] := by
    simpa [List.filter_eq_nil_iff] using hopening.repairs
  have hall : repairs.calls.filter (·.1.isRepair) = repairs.calls := by
    simpa [List.filter_eq_self] using hrepairs.repairs
  refine ⟨repairs.calls, repairs.audits, last, hlast, hbound, ?_, ?_, hrepairs.calls, ?_, ?_, ?_,
    hrepairs.audits, hrepairs.entries⟩
  · simp only [Tally.calls_append, List.length_append, hrepairs.calls]
    omega
  · simp only [Tally.calls_append, List.filter_append, hnone, hall, List.nil_append]
  · rw [Tally.append_assoc, Tally.gates_append,
      Gate.verdicts_append_of_no_rules _ fun g hg => (hopening.gates g hg).1, Tally.gates_append,
      hrepairs.gates, Gate.verdicts_validated_append]
  · simp only [Tally.numbers_append, hopening.numbers, hrepairs.numbers, List.nil_append]
  · simp only [Tally.audits_append, hopening.audits, List.nil_append]

/-- How attempts, repairs and verdicts relate over a course, and how the end shows in them. -/
theorem Course.accounts (h : Course judge limit s t) :
    let repairs := t.calls.filter (·.1.isRepair)
    let verdicts := Gate.verdicts t.gates
    s.attempts ≤ limit ∧ repairs.length ≤ limit ∧ verdicts ≤ limit + 1 ∧
      t.calls.length ≤ limit + 2 ∧ t.numbers = List.range' 1 repairs.length ∧
      (s.status = .completed → verdicts = s.attempts + 1 ∧ repairs.length = s.attempts) ∧
      (s.status = .rejected → verdicts = s.attempts + 1 ∧
        (s.attempts = limit → repairs.length = s.attempts) ∧
        (s.attempts < limit → repairs.length = s.attempts + 1 ∧
          ∃ request result, repairs.getLast? = some (request, result) ∧ Fruitless result)) := by
  obtain ⟨calls, audits, last, hlast, hbound, htotal, hrepairs, hcalls, hverdicts, hnumbers, -⟩ :=
    h.parts
  dsimp only
  rw [hrepairs, hverdicts, hnumbers]
  cases hlast with
  | broken _ hnone hstatus =>
    simp only [List.filter_nil, List.append_nil, List.length_nil, hcalls, hnone] at htotal ⊢
    refine ⟨hbound, hbound, by omega, by omega, trivial, ?_, ?_⟩ <;>
      simp [hstatus]
  | completed hstatus =>
    simp only [List.filter_nil, List.append_nil, List.length_nil, hcalls,
      Gate.verdicts_validated] at htotal ⊢
    refine ⟨hbound, hbound, by omega, by omega, trivial, ?_, ?_⟩ <;>
      simp [hstatus]
  | exhausted hstatus _ _ hlimit =>
    simp only [List.filter_nil, List.append_nil, List.length_nil, hcalls,
      Gate.verdicts_validated] at htotal ⊢
    refine ⟨hbound, hbound, by omega, by omega, trivial, ?_, ?_⟩ <;>
      simp [hstatus, hlimit]
  | @unrepaired code entry request result hstatus _ _ hleft hrepair hfruitless =>
    have hasked : [(request, result)].filter (·.1.isRepair) = [(request, result)] := by
      simp [hrepair]
    have hannounced : List.range' 1 s.attempts ++ [s.attempts + 1] =
        List.range' 1 (s.attempts + 1) := by
      rw [List.range'_concat, Nat.one_mul, Nat.add_comm]
    simp only [hasked, hannounced, List.length_append, List.length_singleton, hcalls,
      Gate.verdicts_validated] at htotal ⊢
    refine ⟨hbound, by omega, by omega, by omega, trivial, ?_, ?_⟩
    · simp [hstatus]
    · intro _
      refine ⟨trivial, fun heq => by omega, fun _ => ⟨trivial, request, result, ?_, hfruitless⟩⟩
      rw [List.getLast?_concat]

/-- Each verdict of a course has its entry for the audit trail, and only the last one may have
passed. -/
theorem Course.audited (h : Course judge limit s t) :
    t.audits.length = Gate.verdicts t.gates ∧
      (∀ entry ∈ t.audits, entry.session = some s.id) ∧
      ∀ entry ∈ t.audits.dropLast, entry.isValid = false := by
  obtain ⟨-, audits, last, hlast, -, -, -, -, hverdicts, -, haudits, hlength, hentries⟩ := h.parts
  rw [haudits, hverdicts, List.length_append, hlength]
  cases hlast with
  | broken _ hnone =>
    refine ⟨by rw [hnone]; rfl, ?_, ?_⟩
    · intro entry hentry
      rw [List.append_nil] at hentry
      exact (hentries entry hentry).1
    · intro entry hentry
      rw [List.append_nil] at hentry
      exact (hentries entry ((List.dropLast_sublist _).subset hentry)).2
  | @completed code entry _ hjudged | @exhausted code entry _ _ hjudged
  | @unrepaired code entry _ _ _ hjudged =>
    refine ⟨by simp, ?_, ?_⟩
    · intro other hother
      rcases List.mem_append.mp hother with hother | hother
      · exact (hentries other hother).1
      · rw [List.mem_singleton.mp hother]
        exact hjudged.session
    · intro other hother
      rw [List.dropLast_concat] at hother
      exact (hentries other hother).2

end Course

namespace Entry

variable [ModelService σ] [Publisher π]

/-- A run comes to its end whatever its bound on the rounds, and its accounts are exact. It makes at
most one repair for each attempt that the configuration allows, numbered from 1, at most one verdict
and at most two calls of the model more. A session that completed was repaired once for each
attempt; so was one that was rejected with all attempts used up, and otherwise one repair more gave
no code. The entries for the audit trail are as many as the verdicts, and none but the last may have
passed. -/
theorem run_accounts (entry : Entry) (config : Config) (request : ComponentRequest)
    (w : World σ π) :
    ∃ report w' effects, entry.run config request w = some (report, w') ∧
      entry.Unbounded config request w ∧ w'.journal = w.journal ++ effects ∧
      let s := report.session
      let limit := config.pipeline.maxAttempts
      let calls := effects.filterMap Effect.modelCall?
      let repairs := calls.filter (·.1.isRepair)
      let verdicts := Gate.verdicts (effects.filterMap Effect.gate?)
      let numbers := effects.filterMap Effect.announced?
      let entries := effects.filterMap Effect.audit?
      (s.status = .completed ∨ s.status = .rejected ∨ s.status = .failed) ∧
      s.maxAttempts = limit ∧ s.attempts ≤ limit ∧
      repairs.length ≤ limit ∧ verdicts ≤ limit + 1 ∧ calls.length ≤ limit + 2 ∧
      numbers = List.range' 1 repairs.length ∧ (∀ number ∈ numbers, number ≤ limit) ∧
      (s.status = .completed → verdicts = s.attempts + 1 ∧ repairs.length = s.attempts) ∧
      (s.status = .rejected → verdicts = s.attempts + 1 ∧
        (s.attempts = limit → repairs.length = s.attempts) ∧
        (s.attempts < limit → repairs.length = s.attempts + 1 ∧
          ∃ request result, repairs.getLast? = some (request, result) ∧ Fruitless result)) ∧
      entries.length = verdicts ∧ (∀ e ∈ entries, e.session = some s.id) ∧
      (∀ e ∈ entries.dropLast, e.isValid = false) ∧
      ((∀ e failure, Effect.store (.appendAudit e) (some failure) ∉ effects) →
        w'.store.audit = w.store.audit ++ entries ∧
          ((∀ e ∈ w.store.audit, e.session ≠ some s.id) →
            w'.store.audit.filter (·.session = some s.id) = entries)) := by
  obtain ⟨report, w', effects, hrun, hmoves, horigin, hcourse⟩ := entry.run_course config request w
  have hlimit : report.session.maxAttempts = config.pipeline.maxAttempts :=
    congrArg Origin.maxAttempts horigin
  obtain ⟨hattempts, hrepairs, hverdicts, hcalls, hnumbers, hcompleted, hrejected⟩ :=
    hcourse.accounts
  obtain ⟨hlength, hsession, hinvalid⟩ := hcourse.audited
  have hwithin : ∀ number ∈ (tally effects).numbers, number ≤ config.pipeline.maxAttempts := by
    intro number hnumber
    rw [hnumbers, List.mem_range'_1] at hnumber
    omega
  refine ⟨report, w', effects, hrun, entry.unbounded config request w, hmoves.journal,
    hcourse.status, hlimit, hattempts, hrepairs, hverdicts, hcalls, hnumbers, hwithin, hcompleted,
    hrejected, hlength, hsession, hinvalid, ?_⟩
  intro hstored
  have haudit : w'.store.audit = w.store.audit ++ (tally effects).audits := by
    rw [hmoves.store]
    exact w.store.foldl_replay_audit hmoves.routine hstored
  refine ⟨haudit, fun hfresh => ?_⟩
  have hothers : w.store.audit.filter (·.session = some report.session.id) = [] := by
    simpa [List.filter_eq_nil_iff] using hfresh
  have hown : (tally effects).audits.filter (·.session = some report.session.id) =
      (tally effects).audits := by
    simpa [List.filter_eq_self] using hsession
  rw [haudit, List.filter_append, hothers, hown, List.nil_append]
  rfl

end Entry

end ArtifactPipeline
