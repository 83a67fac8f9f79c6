import ArtifactPipeline.Proofs.History
import ArtifactPipeline.Proofs.Keyed

/-!
# Lists that are what a history tells

The store keeps lists and changes them in place; a history tells what was written under each key,
and in which order the keys came. If the lists are what a history tells, the store answers as the
history does, and after a call that it took they are what the longer history tells.
-/

namespace ArtifactPipeline

/-! ## How the views of a history grow -/

namespace History

variable (h : History) (c : StoreCall)

/-- The newest version is the one that was written last, under its own key. -/
theorem last_append {α β : Type} [DecidableEq β] {key : α → β} (k : β) (versions : List α) (a : α) :
    last key k (versions ++ [a]) = if k = key a then some a else last key k versions := by
  by_cases hk : k = key a
  · subst hk
    simp [last, List.filter_append]
  · have hother : (key a == k) = false := beq_false_of_ne (Ne.symm hk)
    simp [last, List.filter_append, hother, hk]

/-- A call adds the session that it creates to the sessions of the history, and nothing else. -/
theorem sessionIds_append : sessionIds (h ++ [c]) = h.sessionIds ++ c.created?.toList := by
  cases hc : c.created? <;> simp [sessionIds, hc]

/-- A call that writes a session is its newest version; other sessions stay as they were. -/
theorem session?_append (id : SessionId) : session? (h ++ [c]) id =
    match c.session? with
    | some s => if id = s.id then some s else h.session? id
    | none => h.session? id := by
  cases hc : c.session? with
  | none => simp [session?, hc]
  | some s =>
    have hversions : (h ++ [c]).filterMap StoreCall.session? =
        h.filterMap StoreCall.session? ++ [s] := by simp [hc]
    rw [session?, hversions, last_append]
    rfl

/-- A call changes what the history tells of a pattern as the call does with the pattern itself.
-/
theorem pattern?_append (id : String) :
    pattern? (h ++ [c]) id = c.onPattern id (h.pattern? id) := by
  simp [pattern?]

/-- A pattern keeps the place where it was first saved; a new one comes last. -/
theorem patternIds_append : patternIds (h ++ [c]) =
    match c.pattern? with
    | some p => if p.id ∈ h.patternIds then h.patternIds else h.patternIds ++ [p.id]
    | none => h.patternIds := by
  cases hc : c.pattern? with
  | none => simp [patternIds, hc]
  | some p =>
    have hversions : ((h ++ [c]).filterMap StoreCall.pattern?).map (·.id) =
        (h.filterMap StoreCall.pattern?).map (·.id) ++ [p.id] := by simp [hc]
    rw [patternIds, hversions, eraseDups_concat]
    simp only [patternIds, List.mem_eraseDups]

/-- A call that writes a rule is its newest version; other rules stay as they were. -/
theorem rule?_append (key : RuleKey) : rule? (h ++ [c]) key =
    match c.rule? with
    | some r => if key = r.key then some r else h.rule? key
    | none => h.rule? key := by
  cases hc : c.rule? with
  | none => simp [rule?, hc]
  | some r =>
    have hversions : (h ++ [c]).filterMap StoreCall.rule? =
        h.filterMap StoreCall.rule? ++ [r] := by simp [hc]
    rw [rule?, hversions, last_append]
    rfl

/-- A rule keeps the place where it was first written; a new one comes last. -/
theorem ruleKeys_append : ruleKeys (h ++ [c]) =
    match c.rule? with
    | some r => if r.key ∈ h.ruleKeys then h.ruleKeys else h.ruleKeys ++ [r.key]
    | none => h.ruleKeys := by
  cases hc : c.rule? with
  | none => simp [ruleKeys, hc]
  | some r =>
    have hversions : ((h ++ [c]).filterMap StoreCall.rule?).map Rule.key =
        (h.filterMap StoreCall.rule?).map Rule.key ++ [r.key] := by simp [hc]
    rw [ruleKeys, hversions, eraseDups_concat]
    simp only [ruleKeys, List.mem_eraseDups]

/-- A package is allowed for the tenant that it was allowed for, once. -/
theorem packages_append (scope : Option String) : packages (h ++ [c]) scope =
    match c.package? scope with
    | some package => MemoryStore.insertPackage package (h.packages scope)
    | none => h.packages scope := by
  cases hc : c.package? scope with
  | none => simp [packages, hc]
  | some package =>
    have hversions : (h ++ [c]).filterMap (StoreCall.package? scope) =
        h.filterMap (StoreCall.package? scope) ++ [package] := by simp [hc]
    rw [packages, hversions, eraseDups_concat]
    simp only [MemoryStore.insertPackage, packages, List.contains_iff_mem, List.mem_eraseDups]

end History

namespace MemoryStore

/-- The store after something happened to it. -/
def step (m : MemoryStore) : StoreEvent → MemoryStore
  | .call c =>
    match m.call c with
    | .ok (_, next) => next
    | .error _ => m
  | .setOffline offline => m.setOffline offline

/-- The store after some events. -/
def run (m : MemoryStore) (events : List StoreEvent) : MemoryStore := events.foldl step m

/-- The packages that are allowed for a tenant, or for all. -/
def packagesFor (m : MemoryStore) : Option String → List String
  | none => m.globalAllowlist
  | some tenant => m.tenantAllowlist tenant

/-- The lists of the store are what a history tells. -/
structure Represents (m : MemoryStore) (h : History) : Prop where
  sessions : IsTable (·.id) m.sessions h.sessionIds h.session?
  patterns : IsTable (·.id) m.patterns h.patternIds h.pattern?
  rules : IsTable Rule.key m.rules h.ruleKeys h.rule?
  packages : ∀ scope, m.packagesFor scope = h.packages scope
  logs : m.logs = h.logs
  audit : m.audit = h.audit
  reviews : m.reviews = h.reviews

/-- An empty store is what a history without calls tells. -/
theorem represents_empty : Represents {} [] where
  sessions := .nil
  patterns := .nil
  rules := .nil
  packages scope := by cases scope <;> rfl
  logs := rfl
  audit := rfl
  reviews := rfl

/-! ## Answers -/

section Answers

variable {m next : MemoryStore} {h : History} {c : StoreCall}

/-- The packages of a tenant and those for all are put together as the history puts them
together. -/
theorem Represents.resolvedAllowlist (hm : m.Represents h) (tenant : String) :
    m.resolvedAllowlist tenant = h.allowlist tenant := by
  have hown : (h.packages (some tenant)).eraseDups = h.packages (some tenant) :=
    eraseDups_of_nodup (nodup_eraseDups _)
  have hothers : ((h.packages none).removeAll (h.packages (some tenant))).eraseDups =
      (h.packages none).filter fun package => !(h.packages (some tenant)).contains package :=
    eraseDups_of_nodup ((nodup_eraseDups _).filter _)
  have hboth : m.resolvedAllowlist tenant =
      (m.packagesFor (some tenant) ++ m.packagesFor none).eraseDups := rfl
  rw [hboth, hm.packages, hm.packages, List.eraseDups_append, hown, hothers]
  rfl

/-- A rule is in force for a tenant if it is enabled, and is for all or for that tenant. -/
theorem appliesTo_eq (r : Rule) (tenant : String) :
    r.appliesTo tenant = (r.enabled && (r.tenant == none || r.tenant == some tenant)) := by
  cases hscope : r.tenant <;> simp [Rule.appliesTo, hscope]

/-- A session is created under a new name only. -/
theorem answer_createSession (m : MemoryStore) (s : Session) :
    (m.answer (.createSession s)).map (·.1) =
      if s.id ∈ m.sessions.map (·.id) then .error (.duplicateSession s.id) else .ok () := by
  have hknown : m.sessions.any (·.id == s.id) = true ↔ s.id ∈ m.sessions.map (·.id) := by simp
  by_cases hmem : s.id ∈ m.sessions.map (·.id)
  · rw [answer, if_pos (hknown.mpr hmem), if_pos hmem]
    rfl
  · rw [answer, if_neg (mt hknown.mp hmem), if_neg hmem]
    rfl

/-- A session is replaced under a known name only. -/
theorem answer_updateSession (m : MemoryStore) (s : Session) :
    (m.answer (.updateSession s)).map (·.1) =
      if s.id ∈ m.sessions.map (·.id) then .ok () else .error (.unknownSession s.id) := by
  cases hreplace : replaceFirst? (·.id == s.id) (fun _ => s) m.sessions with
  | none => simp [answer, hreplace, replaceFirst?_key_eq_none.mp hreplace, Except.map]
  | some sessions => simp [answer, hreplace, mem_of_replaceFirst?_key hreplace, Except.map]

/-- A use is counted of a known pattern only. -/
theorem answer_recordPatternUsage (m : MemoryStore) (id : String) (success : Bool) :
    (m.answer (.recordPatternUsage id success)).map (·.1) =
      if id ∈ m.patterns.map (·.id) then .ok () else .error (.unknownPattern id) := by
  cases hreplace : replaceFirst? (·.id == id) (·.count success) m.patterns with
  | none => simp [answer, hreplace, replaceFirst?_key_eq_none.mp hreplace, Except.map]
  | some patterns => simp [answer, hreplace, mem_of_replaceFirst?_key hreplace, Except.map]

/-- The store answers as the history does. -/
theorem Represents.answer (hm : m.Represents h) (c : StoreCall) :
    (m.answer c).map (·.1) = h.answer c := by
  cases c with
  | createSession s =>
    rw [answer_createSession, hm.sessions.order]
    rfl
  | updateSession s =>
    rw [answer_updateSession, hm.sessions.order]
    rfl
  | recordPatternUsage id success =>
    rw [answer_recordPatternUsage, hm.patterns.order]
    rfl
  | getSession id => exact congrArg Except.ok (hm.sessions.found id)
  | getPattern id => exact congrArg Except.ok (hm.patterns.found id)
  | listSessions tenant =>
    exact congrArg (fun sessions => Except.ok (sessions.filter (·.tenant == tenant)))
      hm.sessions.eq_filterMap
  | sessionLogs id =>
    exact congrArg (fun logs => Except.ok (logs.filter (·.session == id))) hm.logs
  | listPatterns intent =>
    have hpatterns : m.patterns = h.patterns := hm.patterns.eq_filterMap
    cases intent with
    | none => simp [MemoryStore.answer, History.answer, Except.map, hpatterns]
    | some intent => simp [MemoryStore.answer, History.answer, Except.map, hpatterns]
  | activeRules tenant =>
    have hrules : m.rules = h.rules := hm.rules.eq_filterMap
    simp [MemoryStore.answer, History.answer, Except.map, hrules, appliesTo_eq]
  | allowlist tenant => exact congrArg Except.ok (hm.resolvedAllowlist tenant)
  | appendLog | savePattern | upsertRule | addAllowedDependency | appendAudit | createReview => rfl

/-! ## Changes -/

/-- What a call makes of the store if it is answered. -/
def written (m : MemoryStore) : StoreCall → MemoryStore
  | .createSession s | .updateSession s =>
    { m with sessions := putFirst (·.id == s.id) s m.sessions }
  | .appendLog entry => { m with logs := m.logs ++ [entry] }
  | .savePattern p => { m with patterns := putFirst (·.id == p.id) p m.patterns }
  | .recordPatternUsage id success =>
    { m with patterns :=
        (replaceFirst? (·.id == id) (·.count success) m.patterns).getD m.patterns }
  | .upsertRule r => { m with rules := putFirst (·.key == r.key) r m.rules }
  | .addAllowedDependency tenant package => m.allow tenant package
  | .appendAudit entry => { m with audit := m.audit ++ [entry] }
  | .createReview record => { m with reviews := m.reviews ++ [record] }
  | .getSession _ | .listSessions _ | .sessionLogs _ | .listPatterns _ | .getPattern _
  | .activeRules _ | .allowlist _ => m

/-- Rules are compared by name and tenant as their keys are. -/
theorem key_beq (r r' : Rule) :
    (r.name == r'.name && r.tenant == r'.tenant) = (r.key == r'.key) := by
  rw [Bool.eq_iff_iff]
  simp [Rule.key]

/-- What becomes of the store when a call is answered. A session is created under a new name, and
replaced under a known one. -/
theorem answer_cases {answer : c.Answer} (hanswer : m.answer c = .ok (answer, next)) :
    next = m.written c ∧
      ∀ s, c.session? = some s → (s.id ∈ m.sessions.map (·.id) ↔ c.created? = none) := by
  cases c with
  | createSession s =>
    simp only [MemoryStore.answer] at hanswer
    split at hanswer
    · cases hanswer
    · next hknown =>
      have hnew : s.id ∉ m.sessions.map (·.id) := by simpa using hknown
      have hreplace : replaceFirst? (·.id == s.id) (fun _ => s) m.sessions = none :=
        replaceFirst?_key_eq_none.mpr hnew
      cases hanswer
      constructor
      · simp only [written, putFirst, hreplace, Option.getD_none]
      · intro s' hs'
        obtain rfl : s = s' := Option.some.inj hs'
        exact iff_of_false hnew (Option.some_ne_none _)
  | updateSession s =>
    simp only [MemoryStore.answer] at hanswer
    split at hanswer
    · next sessions hreplace =>
      have hknown : s.id ∈ m.sessions.map (·.id) := mem_of_replaceFirst?_key hreplace
      cases hanswer
      constructor
      · simp only [written, putFirst, hreplace, Option.getD_some]
      · intro s' hs'
        obtain rfl : s = s' := Option.some.inj hs'
        exact iff_of_true hknown rfl
    · cases hanswer
  | recordPatternUsage id success =>
    simp only [MemoryStore.answer] at hanswer
    split at hanswer
    · next patterns hreplace =>
      cases hanswer
      constructor
      · simp only [written, hreplace, Option.getD_some]
      · intro s hs
        cases hs
    · cases hanswer
  | upsertRule r =>
    cases hanswer
    simp only [key_beq]
    constructor
    · rfl
    · intro s hs
      cases hs
  | _ =>
    cases hanswer
    constructor
    · rfl
    · intro s hs
      cases hs

end Answers

section Parts

variable {m : MemoryStore} {h : History} {c : StoreCall}

/-- Allowing a package concerns only those for whom it is allowed. -/
theorem packagesFor_allow (tenant : Option String) (package : String) (scope : Option String) :
    (m.allow tenant package).packagesFor scope =
      if tenant = scope then insertPackage package (m.packagesFor scope)
      else m.packagesFor scope := by
  cases tenant with
  | none =>
    cases scope with
    | none => rfl
    | some other => rfl
  | some tenant =>
    cases scope with
    | none => rfl
    | some other =>
      have hlookup : (m.allow (some tenant) package).tenantAllowlist other =
          ((putFirst (·.1 == tenant) (tenant, insertPackage package (m.tenantAllowlist tenant))
            m.tenantAllowlists).lookup other).getD [] := rfl
      by_cases hscope : other = tenant
      · subst hscope
        rw [packagesFor, hlookup, lookup_putFirst, if_pos rfl, if_pos rfl]
        rfl
      · have hother : some tenant ≠ some other := by
          intro heq
          exact hscope (Option.some.inj heq).symm
        rw [packagesFor, hlookup, lookup_putFirst, if_neg hscope, if_neg hother]
        rfl

/-- A call that allows a package changes the list of its own tenant only. -/
theorem packagesFor_written (scope : Option String) : (m.written c).packagesFor scope =
    match c.package? scope with
    | some package => insertPackage package (m.packagesFor scope)
    | none => m.packagesFor scope := by
  cases c with
  | addAllowedDependency tenant package =>
    have hallow := packagesFor_allow (m := m) tenant package scope
    by_cases hscope : tenant = scope
    · simpa [written, StoreCall.package?, hscope] using hallow
    · simpa [written, StoreCall.package?, hscope] using hallow
  | _ => cases scope <;> rfl

/-- A session that is written takes the place of its older version, or comes last. -/
theorem sessions_written : (m.written c).sessions =
    match c.session? with
    | some s => putFirst (·.id == s.id) s m.sessions
    | none => m.sessions := by
  cases c with
  | addAllowedDependency tenant package => cases tenant <;> rfl
  | _ => rfl

/-- A saved pattern takes the place of its older version, and a counted use changes the pattern
in its place; a use of an unknown pattern changes nothing. -/
theorem patterns_written : (m.written c).patterns =
    match c with
    | .savePattern p => putFirst (·.id == p.id) p m.patterns
    | .recordPatternUsage id success =>
      (replaceFirst? (·.id == id) (·.count success) m.patterns).getD m.patterns
    | _ => m.patterns := by
  cases c with
  | addAllowedDependency tenant package => cases tenant <;> rfl
  | _ => rfl

/-- A rule that is written takes the place of the rule with its name and tenant, or comes last.
-/
theorem rules_written : (m.written c).rules =
    match c.rule? with
    | some r => putFirst (·.key == r.key) r m.rules
    | none => m.rules := by
  cases c with
  | addAllowedDependency tenant package => cases tenant <;> rfl
  | _ => rfl

/-- A log entry is appended. -/
theorem logs_written : (m.written c).logs = m.logs ++ c.log?.toList := by
  cases c with
  | addAllowedDependency tenant package => cases tenant <;> exact (List.append_nil _).symm
  | appendLog entry => rfl
  | _ => exact (List.append_nil _).symm

/-- An entry for the audit trail is appended. -/
theorem audit_written : (m.written c).audit = m.audit ++ c.audit?.toList := by
  cases c with
  | addAllowedDependency tenant package => cases tenant <;> exact (List.append_nil _).symm
  | appendAudit entry => rfl
  | _ => exact (List.append_nil _).symm

/-- A review is appended. -/
theorem reviews_written : (m.written c).reviews = m.reviews ++ c.review?.toList := by
  cases c with
  | addAllowedDependency tenant package => cases tenant <;> exact (List.append_nil _).symm
  | createReview record => rfl
  | _ => exact (List.append_nil _).symm

/-- No call switches the store off or on. -/
theorem offline_written (m : MemoryStore) (c : StoreCall) : (m.written c).offline = m.offline := by
  cases c with
  | addAllowedDependency tenant package => cases tenant <;> rfl
  | _ => rfl

/-- A call changes nothing if it is refused. -/
theorem step_call (m : MemoryStore) (c : StoreCall) :
    m.step (.call c) = m ∨ m.step (.call c) = m.written c := by
  unfold MemoryStore.step
  dsimp only
  split
  · next answer next hcall =>
    unfold MemoryStore.call at hcall
    split at hcall
    · cases hcall
    · exact .inr (answer_cases hcall).1
  · exact .inl rfl

/-- A call that creates a session writes its first version. -/
theorem created?_cases (c : StoreCall) :
    c.created? = none ∨ ∃ s, c.session? = some s ∧ c.created? = some s.id := by
  cases c with
  | createSession s => exact .inr ⟨s, rfl, rfl⟩
  | _ => exact .inl rfl

/-- A session that is created while there is none of its name, or updated while there is one, is
written as the history tells. -/
theorem Represents.written_sessions (hm : m.Represents h)
    (hc : ∀ s, c.session? = some s → (s.id ∈ m.sessions.map (·.id) ↔ c.created? = none)) :
    IsTable (·.id) (m.written c).sessions (History.sessionIds (h ++ [c]))
      (History.session? (h ++ [c])) := by
  rw [sessions_written, History.sessionIds_append]
  cases hs : c.session? with
  | none =>
    obtain hcreated | ⟨s, hsome, -⟩ := created?_cases c
    · rw [hcreated, Option.toList_none, List.append_nil]
      exact hm.sessions.congr fun id => by rw [History.session?_append, hs]
    · rw [hs] at hsome
      cases hsome
  | some s =>
    have hknown : s.id ∈ h.sessionIds ↔ c.created? = none := hm.sessions.order ▸ hc s hs
    have hkeys : (if s.id ∈ h.sessionIds then h.sessionIds else h.sessionIds ++ [s.id]) =
        h.sessionIds ++ c.created?.toList := by
      obtain hcreated | ⟨s', hs', hcreated⟩ := created?_cases c
      · rw [if_pos (hknown.mpr hcreated), hcreated, Option.toList_none, List.append_nil]
      · obtain rfl : s = s' := Option.some.inj (hs.symm.trans hs')
        have hnew : s.id ∉ h.sessionIds := by
          rw [hknown, hcreated]
          exact Option.some_ne_none _
        rw [if_neg hnew, hcreated, Option.toList_some]
    rw [← hkeys]
    exact (hm.sessions.put s).congr fun id => by rw [History.session?_append, hs]

/-- Patterns that are saved, and uses that are counted, change the list as the history tells. -/
theorem Represents.written_patterns (hm : m.Represents h) (c : StoreCall) :
    IsTable (·.id) (m.written c).patterns (History.patternIds (h ++ [c]))
      (History.pattern? (h ++ [c])) := by
  rw [patterns_written, History.patternIds_append]
  cases c with
  | savePattern p =>
    refine (hm.patterns.put p).congr fun id => ?_
    rw [History.pattern?_append]
    simp only [StoreCall.onPattern, eq_comm]
  | recordPatternUsage id success =>
    dsimp only
    cases hreplace : replaceFirst? (·.id == id) (·.count success) m.patterns with
    | some patterns =>
      rw [Option.getD_some]
      refine (hm.patterns.change hreplace fun _ hid => hid).congr fun id' => ?_
      rw [History.pattern?_append]
      by_cases hid : id' = id
      · simp [StoreCall.onPattern, hid]
      · simp [StoreCall.onPattern, hid, Ne.symm hid]
    | none =>
      -- There is nothing to be counted, so nothing is found under the name.
      have hunknown : h.pattern? id = none := by
        rw [hm.patterns.version_eq_none, ← hm.patterns.order]
        exact replaceFirst?_key_eq_none.mp hreplace
      refine hm.patterns.congr fun id' => ?_
      rw [History.pattern?_append]
      by_cases hid : id = id'
      · subst hid
        simp [StoreCall.onPattern, hunknown]
      · simp [StoreCall.onPattern, hid]
  | _ => exact hm.patterns.congr fun id => History.pattern?_append h _ id

/-- Rules that are written change the list as the history tells. -/
theorem Represents.written_rules (hm : m.Represents h) (c : StoreCall) :
    IsTable Rule.key (m.written c).rules (History.ruleKeys (h ++ [c]))
      (History.rule? (h ++ [c])) := by
  rw [rules_written, History.ruleKeys_append]
  cases hr : c.rule? with
  | none => exact hm.rules.congr fun key => by rw [History.rule?_append, hr]
  | some r => exact (hm.rules.put r).congr fun key => by rw [History.rule?_append, hr]

/-- What the history tells stays what the store holds. -/
theorem Represents.written (hm : m.Represents h)
    (hc : ∀ s, c.session? = some s → (s.id ∈ m.sessions.map (·.id) ↔ c.created? = none)) :
    (m.written c).Represents (h ++ [c]) := by
  constructor
  case sessions => exact hm.written_sessions hc
  case patterns => exact hm.written_patterns c
  case rules => exact hm.written_rules c
  case packages =>
    intro scope
    rw [packagesFor_written, History.packages_append, hm.packages]
  case logs =>
    rw [logs_written, hm.logs]
    cases hlog : c.log? <;> simp [History.logs, hlog]
  case audit =>
    rw [audit_written, hm.audit]
    cases haudit : c.audit? <;> simp [History.audit, haudit]
  case reviews =>
    rw [reviews_written, hm.reviews]
    cases hreview : c.review? <;> simp [History.reviews, hreview]

/-- Calls that write no session keep what the history tells. -/
theorem Represents.foldl_written {calls : List StoreCall} (hm : m.Represents h)
    (hcalls : ∀ c ∈ calls, c.session? = none) :
    (calls.foldl MemoryStore.written m).Represents (h ++ calls) := by
  induction calls generalizing m h with
  | nil => rwa [List.append_nil]
  | cons c calls ih =>
    have hnone : c.session? = none := hcalls c (by simp)
    have hfirst : (m.written c).Represents (h ++ [c]) := by
      refine hm.written fun s hs => ?_
      rw [hnone] at hs
      cases hs
    have hsplit : h ++ c :: calls = (h ++ [c]) ++ calls := by simp
    rw [List.foldl_cons, hsplit]
    exact ih hfirst fun c' hc' => hcalls c' (by simp [hc'])

end Parts

end MemoryStore

end ArtifactPipeline
