import ArtifactPipeline.Proofs.Accounting
import ArtifactPipeline.Proofs.Charges
import ArtifactPipeline.Proofs.Counters
import ArtifactPipeline.Proofs.Escalation
import ArtifactPipeline.Proofs.StoredReport

/-!
# What a run leaves behind

A run adds its session to the store, with the log, the audit trail and the review of that session,
and it counts the uses of the patterns that the plan refers to. Each part of the store is followed
through the journal; everything else in it is as it was.
-/

namespace ArtifactPipeline

variable {σ π α : Type}

namespace Effect

/-- Whether the store took a use of a pattern to be counted. -/
def countsUse (id : String) (success : Bool) : Effect → Bool
  | store (.recordPatternUsage id' success') none => id' == id && success' == success
  | _ => false

/-- What is no use of a pattern counts none. -/
theorem countsUse_of_use {e : Effect} {id : String} {success : Bool} (h : e.use? = none) :
    e.countsUse id success = false := by
  unfold countsUse
  split
  · cases h
  · rfl

/-- What counts a use is the use of that pattern with that outcome. -/
theorem use?_of_countsUse {e : Effect} {id : String} {success : Bool}
    (h : e.countsUse id success = true) : e.use? = some (id, success) := by
  unfold countsUse at h
  split at h
  · simpa [use?] using h
  · cases h

/-- An effect that is a use of a pattern is a call to count it. -/
theorem eq_of_use? {e : Effect} {id : String} {success : Bool} (h : e.use? = some (id, success)) :
    ∃ failure, e = store (.recordPatternUsage id success) failure := by
  unfold use? at h
  split at h
  · cases h
    exact ⟨_, rfl⟩
  · cases h

/-- What is read off an effect that the store took. -/
def taken (read : Effect → Option α) : Effect → Option α
  | store call none => read (store call none)
  | _ => none

/-- What the store took is some of what it was offered, in order. -/
theorem taken_sublist (read : Effect → Option α) (effects : List Effect) :
    (effects.filterMap (taken read)).Sublist (effects.filterMap read) := by
  induction effects with
  | nil => exact .slnil
  | cons e effects ih =>
    have hskip : (effects.filterMap (taken read)).Sublist ((e :: effects).filterMap read) :=
      ih.trans ((List.sublist_cons_self e effects).filterMap read)
    match e with
    | .model .. | .publish .. | .store _ (some _) => exact hskip
    | .store call none =>
      cases hread : read (.store call none) with
      | none => simpa [taken, hread] using ih
      | some a => simpa [taken, hread] using ih.cons_cons a

end Effect

namespace PatternRecord

/-- A pattern after something was done to the world. Its uses are counted if the store took that. -/
def after (p : PatternRecord) : Effect → PatternRecord
  | .store (.recordPatternUsage id success) none => if p.id = id then p.count success else p
  | _ => p

/-- A counted use keeps the name of the pattern. -/
@[simp] theorem count_id (p : PatternRecord) (success : Bool) : (p.count success).id = p.id := rfl

/-- Whatever is done to the world, a pattern keeps its name. -/
@[simp] theorem after_id (p : PatternRecord) (e : Effect) : (p.after e).id = p.id := by
  unfold after
  split
  · split <;> rfl
  · rfl

/-- What is no use of a pattern leaves it as it is. -/
theorem after_of_use {e : Effect} (p : PatternRecord) (h : e.use? = none) : p.after e = p := by
  unfold after
  split
  · cases h
  · rfl

/-- What a pattern tells of a component does not change. -/
theorem foldl_after_text (effects : List Effect) (p : PatternRecord) :
    let q := effects.foldl after p
    (q.id, q.name, q.intent, q.code) = (p.id, p.name, p.intent, p.code) := by
  induction effects generalizing p with
  | nil => rfl
  | cons e effects ih =>
    refine (ih (p.after e)).trans ?_
    unfold after
    split
    · split <;> rfl
    · rfl

/-- If each use of a pattern was to be counted at most once, a pattern is counted at most once: if
the store took its use. -/
theorem foldl_after {effects : List Effect} {ids : List String} {success : Bool}
    (p : PatternRecord) (huses : effects.filterMap Effect.use? = ids.map (·, success))
    (hnodup : ids.Nodup) :
    effects.foldl after p =
      if effects.any (·.countsUse p.id success) then p.count success else p := by
  induction effects generalizing ids p with
  | nil => rfl
  | cons e effects ih =>
    rw [List.foldl_cons, List.any_cons]
    cases huse : e.use? with
    | none =>
      rw [List.filterMap_cons_none huse] at huses
      rw [after_of_use p huse, ih p huses hnodup, Effect.countsUse_of_use huse, Bool.false_or]
    | some use =>
      rw [List.filterMap_cons_some huse] at huses
      obtain _ | ⟨id, ids⟩ := ids
      · cases huses
      · obtain ⟨rfl, hrest⟩ := List.cons.inj huses
        obtain ⟨hfresh, hnodup⟩ := List.nodup_cons.mp hnodup
        obtain ⟨failure, rfl⟩ := Effect.eq_of_use? huse
        cases failure with
        | some failure => simpa [after, Effect.countsUse] using ih p hrest hnodup
        | none =>
          by_cases hid : p.id = id
          · -- The same pattern is not to be counted again.
            have hlater : effects.any (·.countsUse id success) = false := by
              rw [List.any_eq_false]
              intro e he hcounts
              have hmem : (id, success) ∈ effects.filterMap Effect.use? :=
                List.mem_filterMap.mpr ⟨e, he, Effect.use?_of_countsUse hcounts⟩
              rw [hrest] at hmem
              exact hfresh (by simpa using hmem)
            have hcounted := ih (p.count success) hrest hnodup
            rw [count_id, hid, hlater, if_neg (by decide)] at hcounted
            simp [after, Effect.countsUse, hid, hcounted]
          · simpa [after, Effect.countsUse, hid, Ne.symm hid] using ih p hrest hnodup

end PatternRecord

namespace MemoryStore

/-- The patterns after something was done to the world. -/
theorem replay_patterns (m : MemoryStore) {e : Effect} (he : e.isRoutine = true)
    (hnodup : (m.patterns.map (·.id)).Nodup) :
    (m.replay e).patterns = m.patterns.map (·.after e) := by
  cases huse : e.use? with
  | none =>
    have hkept : m.patterns.map (·.after e) = m.patterns :=
      List.map_id'' (fun p => p.after_of_use huse) _
    rw [replay_patterns_of_use he huse, hkept]
  | some use =>
    obtain ⟨failure, rfl⟩ := Effect.eq_of_use? huse
    cases failure with
    | some failure => exact (List.map_id' _).symm
    | none =>
      simp only [replay, answer]
      cases hreplace : replaceFirst? (·.id == use.1) (·.count use.2) m.patterns with
      | some patterns => exact replaceFirst?_eq_map hnodup hreplace
      | none =>
        have hunknown := List.find?_eq_none.mp (replaceFirst?_eq_none.mp hreplace)
        refine ((List.map_congr_left fun p hp => ?_).trans (List.map_id' _)).symm
        exact if_neg (by simpa using hunknown p hp)

/-- Each pattern after a number of effects is what they make of it one after another. -/
theorem foldl_replay_patterns (m : MemoryStore) {effects : List Effect}
    (heffects : ∀ e ∈ effects, e.isRoutine = true) (hnodup : (m.patterns.map (·.id)).Nodup) :
    (effects.foldl replay m).patterns =
      m.patterns.map fun p => effects.foldl PatternRecord.after p := by
  induction effects generalizing m with
  | nil => exact (List.map_id' _).symm
  | cons e effects ih =>
    have hfirst := m.replay_patterns (heffects e (by simp)) hnodup
    have hids : (m.replay e).patterns.map (·.id) = m.patterns.map (·.id) := by
      rw [hfirst, List.map_map]
      exact List.map_congr_left fun p _ => p.after_id e
    rw [List.foldl_cons, ih _ (fun e' he' => heffects e' (by simp [he'])) (by rwa [hids]), hfirst,
      List.map_map]
    rfl

/-- A run that counts each of some patterns once, with one outcome, changes those of them whose use
the store took. -/
theorem foldl_replay_patterns_counted (m : MemoryStore) {effects : List Effect}
    {references : List String} {success : Bool}
    (heffects : ∀ e ∈ effects, e.isRoutine = true) (hnodup : (m.patterns.map (·.id)).Nodup)
    (huses : effects.filterMap Effect.use? = references.map (·, success))
    (hreferences : references.Nodup) :
    (effects.foldl replay m).patterns = m.patterns.map fun p =>
      if p.id ∈ references ∧ effects.any (·.countsUse p.id success) then p.count success
      else p := by
  rw [m.foldl_replay_patterns heffects hnodup]
  refine List.map_congr_left fun p _ => ?_
  rw [PatternRecord.foldl_after p huses hreferences]
  by_cases hany : effects.any (·.countsUse p.id success) = true
  · have hmem : p.id ∈ references := by
      obtain ⟨e, he, hcounts⟩ := List.any_eq_true.mp hany
      have huse : (p.id, success) ∈ effects.filterMap Effect.use? :=
        List.mem_filterMap.mpr ⟨e, he, Effect.use?_of_countsUse hcounts⟩
      rw [huses] at huse
      simpa using huse
    rw [if_pos hany, if_pos ⟨hmem, hany⟩]
  · rw [if_neg hany, if_neg fun hboth => hany hboth.2]

/-- Replaying an effect appends to the audit trail what the store took of it. -/
theorem replay_audit_taken (m : MemoryStore) {e : Effect} (he : e.isRoutine = true) :
    (m.replay e).audit = m.audit ++ (e.taken Effect.audit?).toList := by
  match e, he with
  | .model .., _ | .publish .., _ | .store _ (some _), _ => exact (List.append_nil _).symm
  | .store call none, he =>
    simp only [replay]
    split
    · next h => exact audit_of_answer he h
    · next h =>
      cases call with
      | appendAudit entry => cases h
      | _ => exact (List.append_nil _).symm

/-- A call that succeeds appends the review that it asks for, if it asks for one. -/
theorem reviews_of_answer {m next : MemoryStore} {c : StoreCall} {answer : c.Answer}
    (hc : c.method.isRoutine = true) (h : m.answer c = .ok (answer, next)) :
    next.reviews = m.reviews ++ (Effect.store c none).review?.toList := by
  cases c with
  | createSession | updateSession | recordPatternUsage =>
    simp only [MemoryStore.answer] at h
    split at h <;> cases h
    exact (List.append_nil _).symm
  | appendLog | listPatterns | getPattern | activeRules | allowlist | appendAudit =>
    cases h
    exact (List.append_nil _).symm
  | createReview record => cases h; rfl
  | getSession | listSessions | sessionLogs | savePattern | upsertRule
  | addAllowedDependency => cases hc

/-- Replaying an effect appends to the reviews what the store took of it. -/
theorem replay_reviews_taken (m : MemoryStore) {e : Effect} (he : e.isRoutine = true) :
    (m.replay e).reviews = m.reviews ++ (e.taken Effect.review?).toList := by
  match e, he with
  | .model .., _ | .publish .., _ | .store _ (some _), _ => exact (List.append_nil _).symm
  | .store call none, he =>
    simp only [replay]
    split
    · next h => exact reviews_of_answer he h
    · next h =>
      cases call with
      | createReview record => cases h
      | _ => exact (List.append_nil _).symm

/-- The sessions of the store are some others and at most one with a name that those do not have. -/
def HoldsApart (m : MemoryStore) (others : List Session) (id : SessionId) : Prop :=
  ∃ own : Option Session, m.sessions = others ++ own.toList ∧ ∀ s ∈ own, s.id = id

/-- Storing a session under its own name leaves the others alone. -/
theorem HoldsApart.replay {m : MemoryStore} {others : List Session} {id : SessionId} {e : Effect}
    (h : m.HoldsApart others id) (hothers : ∀ s ∈ others, s.id ≠ id)
    (hcreation : e.creation? = none) (hown : ∀ u, e.update? = some u → u.1.id = id) :
    (m.replay e).HoldsApart others id := by
  match e with
  | .model .. | .publish .. | .store _ (some _) => exact h
  | .store call none =>
    cases hupdate : (Effect.store call none).update? with
    | none =>
      simp only [MemoryStore.replay]
      split
      · next hanswer =>
        obtain ⟨own, hsessions, hid⟩ := h
        exact ⟨own, (sessions_of_answer hcreation hupdate hanswer).trans hsessions, hid⟩
      · exact h
    | some u =>
      cases call with
      | updateSession s =>
        cases hupdate
        obtain rfl : s.id = id := hown (s, none) rfl
        obtain ⟨own, hsessions, hid⟩ := h
        have happart : ∀ t ∈ others, (t.id == s.id) = false := by simpa using hothers
        simp only [MemoryStore.replay, answer, hsessions, replaceFirst?_append _ _ happart]
        cases own with
        | none => exact ⟨none, hsessions, hid⟩
        | some held =>
          have hheld : held.id = s.id := hid held rfl
          simp only [Option.toList_some, replaceFirst?, hheld, beq_self_eq_true, if_true,
            Option.map_some]
          exact ⟨some s, rfl, by simp⟩
      | _ => cases hupdate

/-- The other sessions of a store stay as they are while a session is worked on under a name of
its own. -/
theorem HoldsApart.foldl_replay {m : MemoryStore} {others : List Session} {id : SessionId}
    {effects : List Effect} (h : m.HoldsApart others id) (hothers : ∀ s ∈ others, s.id ≠ id)
    (hcreations : effects.filterMap Effect.creation? = [])
    (hown : ∀ u ∈ effects.filterMap Effect.update?, u.1.id = id) :
    (effects.foldl MemoryStore.replay m).HoldsApart others id := by
  induction effects generalizing m with
  | nil => exact h
  | cons e effects ih =>
    have hcreation : ∀ e' ∈ e :: effects, e'.creation? = none :=
      List.filterMap_eq_nil_iff.mp hcreations
    have hfirst := h.replay hothers (hcreation e (by simp)) fun u hu =>
      hown u (List.mem_filterMap.mpr ⟨e, by simp, hu⟩)
    refine ih hfirst ?_ fun u hu => ?_
    · exact List.filterMap_eq_nil_iff.mpr fun e' he' => hcreation e' (by simp [he'])
    · obtain ⟨e', he', hu⟩ := List.mem_filterMap.mp hu
      exact hown u (List.mem_filterMap.mpr ⟨e', by simp [he'], hu⟩)

/-- A new session stands apart from those that are there. -/
theorem replay_creation_holdsApart (m : MemoryStore) (s : Session)
    (creation : Option StoreError) :
    (m.replay (.store (.createSession s) creation)).HoldsApart m.sessions s.id := by
  have hnone : m.HoldsApart m.sessions s.id := ⟨none, by simp, by simp⟩
  cases creation with
  | some failure => exact hnone
  | none =>
    simp only [replay, answer]
    cases hknown : m.sessions.any (·.id == s.id) with
    | true => exact hnone
    | false => exact ⟨some s, rfl, by simp⟩

end MemoryStore

/-- How often a session counted a pattern with an outcome: once, if the session ended with that
outcome, its plan refers to the pattern and the store took the use. -/
def Session.useOf (s : Session) (id : String) (success : Bool) (effects : List Effect) : Nat :=
  if s.status = (if success then .completed else .rejected) ∧ id ∈ s.references ∧
    effects.any (·.countsUse id success) then 1 else 0

namespace MemoryStore

/-- What a run of a session made of a store, given what was done to the world in it. -/
structure LeftBy (before after : MemoryStore) (effects : List Effect) (s : Session) : Prop where
  rules : after.rules = before.rules
  globalAllowlist : after.globalAllowlist = before.globalAllowlist
  tenantAllowlists : after.tenantAllowlists = before.tenantAllowlists
  offline : after.offline = before.offline
  /-- The session is the only new one, and the others are as they were. -/
  sessions : after.HoldsApart before.sessions s.id
  logs : ∃ own, after.logs = before.logs ++ own ∧ ∀ e ∈ own, e.session = s.id
  audit : ∃ own, after.audit = before.audit ++ own ∧ ∀ e ∈ own, e.session = some s.id
  reviews : ∃ own, after.reviews = before.reviews ++ own ∧ own.length ≤ 1 ∧
    ∀ r ∈ own, r.session = s.id
  /-- The plan refers to no pattern twice. -/
  references : s.references.Nodup
  /-- The use of each pattern that the plan refers to was to be counted once, with the outcome of
  the session, or not at all if it failed. -/
  uses : effects.filterMap Effect.use? = s.counts
  /-- Nothing of a pattern changes but its counters. -/
  texts : after.patterns.map (fun p => (p.id, p.name, p.intent, p.code)) =
    before.patterns.map fun p => (p.id, p.name, p.intent, p.code)
  /-- After a success, a pattern that the plan refers to has gained a use and a success if the store
  took that, and the others are as they were. -/
  completed : s.status = .completed → after.patterns = before.patterns.map fun p =>
    if p.id ∈ s.references ∧ effects.any (·.countsUse p.id true) then p.count true else p
  /-- After a rejection it has gained a use and a failure. -/
  rejected : s.status = .rejected → after.patterns = before.patterns.map fun p =>
    if p.id ∈ s.references ∧ effects.any (·.countsUse p.id false) then p.count false else p
  failed : s.status = .failed → after.patterns = before.patterns
  /-- As numbers, the counters have grown by one use with its outcome where the store took that, and
  by nothing where it did not. -/
  counters : List.Forall₂ (fun p q => p.Gains q (s.useOf p.id true effects)
    (s.useOf p.id false effects)) before.patterns after.patterns

end MemoryStore

/-- A session that did not end with an outcome counted no pattern with it. -/
theorem Session.useOf_eq_zero {s : Session} {id : String} {success : Bool} (effects : List Effect)
    (hstatus : s.status ≠ if success then .completed else .rejected) :
    s.useOf id success effects = 0 :=
  if_neg fun h => hstatus h.1

/-- A session that ended with an outcome counted with it the patterns that its plan refers to, where
the store took the use. -/
theorem Session.useOf_of_status {s : Session} {success : Bool} (id : String) (effects : List Effect)
    (hstatus : s.status = if success then .completed else .rejected) :
    s.useOf id success effects =
      if id ∈ s.references ∧ effects.any (·.countsUse id success) then 1 else 0 := by
  simp only [useOf, hstatus, true_and]

/-- A session that ended with an outcome lets the counters of a pattern grow by what it counted. -/
theorem Session.gains_counted {s : Session} {effects : List Effect} {success : Bool}
    (hstatus : s.status = if success then .completed else .rejected) (p : PatternRecord) :
    p.Gains (if p.id ∈ s.references ∧ effects.any (·.countsUse p.id success) then p.count success
      else p) (s.useOf p.id true effects) (s.useOf p.id false effects) := by
  have hother : s.useOf p.id (!success) effects = 0 := by
    apply useOf_eq_zero
    rw [hstatus]
    cases success <;> decide
  have hsame := useOf_of_status p.id effects hstatus
  have hgrown : (if p.id ∈ s.references ∧ effects.any (·.countsUse p.id success) then
      p.count success else p) =
        p.grown (s.useOf p.id true effects) (s.useOf p.id false effects) := by
    cases success with
    | true =>
      rw [Bool.not_true] at hother
      rw [hsame, hother]
      split <;> simp [PatternRecord.count_eq_grown]
    | false =>
      rw [Bool.not_false] at hother
      rw [hsame, hother]
      split <;> simp [PatternRecord.count_eq_grown]
  rw [hgrown]
  exact p.gains_grown _ _

/-- A session that neither completed nor was rejected lets no counter grow. -/
theorem Session.gains_nothing {s : Session} (effects : List Effect)
    (hcompleted : s.status ≠ .completed) (hrejected : s.status ≠ .rejected) (p : PatternRecord) :
    p.Gains p (s.useOf p.id true effects) (s.useOf p.id false effects) := by
  simpa [useOf, hcompleted, hrejected] using p.gains_grown 0 0

/-- Effects that counted what a session counts at its end let the counters of each pattern grow by
what the session counted of it. -/
theorem MemoryStore.foldl_replay_gains (m : MemoryStore) {effects : List Effect} {s : Session}
    (heffects : ∀ e ∈ effects, e.isRoutine = true) (hnodup : (m.patterns.map (·.id)).Nodup)
    (huses : effects.filterMap Effect.use? = s.counts) (hreferences : s.references.Nodup) :
    List.Forall₂ (fun p q => p.Gains q (s.useOf p.id true effects) (s.useOf p.id false effects))
      m.patterns (effects.foldl replay m).patterns := by
  have hended (success : Bool) (hcounts : s.counts = s.references.map (·, success))
      (hstatus : s.status = if success then .completed else .rejected) :
      List.Forall₂ (fun p q => p.Gains q (s.useOf p.id true effects) (s.useOf p.id false effects))
        m.patterns (effects.foldl replay m).patterns := by
    rw [m.foldl_replay_patterns_counted heffects hnodup (huses.trans hcounts) hreferences,
      List.forall₂_map_right_iff]
    exact List.forall₂_same.mpr fun p _ => Session.gains_counted hstatus p
  by_cases hcompleted : s.status = .completed
  · exact hended true (by rw [Session.counts, hcompleted]) hcompleted
  by_cases hrejected : s.status = .rejected
  · exact hended false (by rw [Session.counts, hrejected]) hrejected
  · have hnone : s.counts = ([] : List String).map (·, true) := by
      unfold Session.counts
      split <;> first | contradiction | rfl
    have hkept : (effects.foldl replay m).patterns = m.patterns := by
      simpa using m.foldl_replay_patterns_counted heffects hnodup (huses.trans hnone) List.nodup_nil
    rw [hkept]
    exact List.forall₂_same.mpr fun p _ => Session.gains_nothing effects hcompleted hrejected p

/-- Of the reviews that a session asks for the store takes at most one, and that one is about the
session. -/
theorem Course.reviews_taken {judge : String → Verdict} {limit : Nat} {s : Session}
    {effects : List Effect} (h : Course judge limit s (tally effects)) :
    (effects.filterMap (Effect.taken Effect.review?)).length ≤ 1 ∧
      ∀ r ∈ effects.filterMap (Effect.taken Effect.review?), r.session = s.id := by
  have hsublist := Effect.taken_sublist Effect.review? effects
  have hreviews : (tally effects).reviews = effects.filterMap Effect.review? := rfl
  rcases h.reviews with ⟨-, -, record, verdict, hone, -, hrecord⟩ | ⟨-, hnone⟩
  · rw [← hreviews, hone] at hsublist
    refine ⟨by simpa using hsublist.length_le, fun r hr => ?_⟩
    rw [List.mem_singleton.mp (hsublist.subset hr)]
    exact hrecord.1
  · rw [← hreviews, hnone] at hsublist
    rw [List.eq_nil_of_sublist_nil hsublist]
    simp

/-- What a run charged its session tells which uses of patterns were to be counted. -/
theorem RunCharges.uses {w : World σ π} {effects : List Effect} {f : Flight σ π}
    (h : RunCharges w f) (hjournal : f.world.journal = w.journal ++ effects)
    (hnodup : (w.store.patterns.map (·.id)).Nodup) :
    effects.filterMap Effect.use? = f.session.counts ∧ f.session.references.Nodup := by
  cases h with
  | kept hposts _ hreferences =>
    obtain ⟨effects', hmoves, hledger⟩ := hposts
    obtain rfl := List.append_cancel_left (hjournal.symm.trans hmoves.journal)
    exact ⟨congrArg Ledger.uses hledger, hreferences hnodup⟩
  | lost usage failure hposts _ hplan hstatus =>
    obtain ⟨effects', hmoves, hledger⟩ := hposts
    obtain rfl := List.append_cancel_left (hjournal.symm.trans hmoves.journal)
    have hcounts : f.session.counts = [] := by rw [Session.counts, hstatus]
    rw [hcounts, Session.references, hplan]
    exact ⟨congrArg Ledger.uses hledger, List.nodup_nil⟩

/-- What a run did to the store in which it worked. -/
theorem Flight.Since.leftBy {w : World σ π} {created : Session} {creation : Option StoreError}
    {steps : List Effect} {f : Flight σ π} (h : f.Since w created creation steps)
    (hnodup : (w.store.patterns.map (·.id)).Nodup)
    (hfresh : ∀ s ∈ w.store.sessions, s.id ≠ created.id) {judge : String → Verdict} {limit : Nat}
    (hcourse : Course judge limit f.session (tally (.store (.createSession created) creation ::
      steps))) (hcharges : RunCharges w f) :
    w.store.LeftBy f.world.store (.store (.createSession created) creation :: steps)
      f.session := by
  have hid : f.session.id = created.id := h.id
  have howns := h.steps.owns
  have hstore := h.moves.store
  have hroutine := h.moves.routine
  have hregime := h.moves.regime
  obtain ⟨huses, hreferences⟩ := hcharges.uses h.moves.journal hnodup
  generalize hall : Effect.store (.createSession created) creation :: steps = effects
    at hstore hroutine hcourse huses
  have hcounted (success : Bool) (ids : List String) (hids : ids.Nodup)
      (hcounts : f.session.counts = ids.map (·, success)) :=
    w.store.foldl_replay_patterns_counted hroutine hnodup (huses.trans hcounts) hids
  rw [← hstore] at hcounted
  constructor
  case rules => exact congrArg MemoryStore.Regime.rules hregime
  case globalAllowlist => exact congrArg MemoryStore.Regime.globalAllowlist hregime
  case tenantAllowlists => exact congrArg MemoryStore.Regime.tenantAllowlists hregime
  case offline => rw [hstore, MemoryStore.foldl_replay_offline]
  case sessions =>
    have hnew := w.store.replay_creation_holdsApart created creation
    rw [hstore, ← hall, hid, List.foldl_cons]
    exact hnew.foldl_replay hfresh howns.creations howns.updates
  case logs =>
    refine ⟨steps.filterMap Effect.kept?, ?_, fun e he => ?_⟩
    · rw [hstore, w.store.foldl_replay_logs hroutine, ← hall]
      rfl
    · rw [hid]
      exact howns.entries e ((Effect.kept_sublist steps).subset he)
  case audit =>
    refine ⟨effects.filterMap (Effect.taken Effect.audit?), ?_, fun e he => ?_⟩
    · rw [hstore]
      exact w.store.foldl_replay_append fun m e he => m.replay_audit_taken (hroutine e he)
    · exact hcourse.audited.2.1 e ((Effect.taken_sublist Effect.audit? effects).subset he)
  case reviews =>
    refine ⟨effects.filterMap (Effect.taken Effect.review?), ?_, hcourse.reviews_taken⟩
    rw [hstore]
    exact w.store.foldl_replay_append fun m e he => m.replay_reviews_taken (hroutine e he)
  case references => exact hreferences
  case uses => exact huses
  case texts =>
    rw [hstore, w.store.foldl_replay_patterns hroutine hnodup, List.map_map]
    exact List.map_congr_left fun p _ => PatternRecord.foldl_after_text effects p
  case completed =>
    intro hstatus
    exact hcounted true _ hreferences (by rw [Session.counts, hstatus])
  case rejected =>
    intro hstatus
    exact hcounted false _ hreferences (by rw [Session.counts, hstatus])
  case failed =>
    intro hstatus
    have hnone := hcounted true [] List.nodup_nil (by rw [Session.counts, hstatus]; rfl)
    simpa using hnone
  case counters =>
    rw [hstore]
    exact w.store.foldl_replay_gains hroutine hnodup huses hreferences

/-- A run under a name that the store does not know adds to the store what is its own, and counts
the uses of the patterns that its plan refers to. Nothing else in the store changes. -/
theorem execute_touches_its_own [ModelService σ] [Publisher π] (config : Config)
    (request : ComponentRequest) (w : World σ π)
    (hpatterns : (w.store.patterns.map (·.id)).Nodup)
    (hsessions : ∀ s ∈ w.store.sessions, s.id ≠ w.freshId.1) :
    ∃ report w' effects, execute config request w = .ok report w' ∧
      w'.journal = w.journal ++ effects ∧ report.session.id = w.freshId.1 ∧
      w.store.LeftBy w'.store effects report.session := by
  obtain ⟨f, hrun, hresult⟩ := Entry.blocking.run_eq config request w
  obtain ⟨creation, steps, hsince⟩ := FlightWork.runAs_since hrun
  obtain ⟨report, w', effects, hresult', hmoves, -, hcourse⟩ :=
    Entry.blocking.run_course config request w
  obtain ⟨rfl, rfl⟩ : report = ⟨f.session, f.run.history⟩ ∧ w' = f.world := by
    simpa [hresult] using hresult'.symm
  obtain rfl := List.append_cancel_left (hmoves.journal.symm.trans hsince.moves.journal)
  exact ⟨_, _, _, Entry.execute_of_run hresult, hsince.moves.journal, hsince.id,
    hsince.leftBy hpatterns hsessions hcourse (FlightWork.runAs_charges hrun)⟩

/-- In a store that holds another session and two patterns. -/
theorem execute_touches_its_own_beside_other :
    let request : ComponentRequest := { tenant := "acme", user := "ann", prompt := "A button" }
    let other : Session := .new ⟨7⟩ request 3 default
    let pattern (id : String) : PatternRecord := {
      id, name := "Counter", intent := .custom, code := none, usageCount := 4, successCount := 3
      failureCount := 1 }
    let w : World ScriptedModel MemoryPublisher := {
      store := { sessions := [other], patterns := [pattern "first", pattern "second"] }
      faults := fun method number => method = .recordPatternUsage && number = 1
      model := {}
      publisher := { names := fun _ => "artifact" }
      regexes := { limit := 1048576 }
      journal := []
      clock := fun reading => ⟨reading, 0⟩
      readings := 0
      ids := fun number => ⟨number⟩
      begun := 0 }
    (w.store.patterns.map (·.id)).Nodup ∧ (∀ s ∈ w.store.sessions, s.id ≠ w.freshId.1) ∧
      ∃ report w' effects, execute {} request w = .ok report w' ∧ w'.journal = effects ∧
        report.session.id = ⟨0⟩ ∧ w.store.LeftBy w'.store effects report.session := by
  intro request other pattern w
  have hpatterns : (w.store.patterns.map (·.id)).Nodup := by
    simp [w, pattern]
  have hsessions : ∀ s ∈ w.store.sessions, s.id ≠ w.freshId.1 := by
    simp [w, other, World.freshId, Session.new]
  exact ⟨hpatterns, hsessions, execute_touches_its_own {} request w hpatterns hsessions⟩

end ArtifactPipeline
