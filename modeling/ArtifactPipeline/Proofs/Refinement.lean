import ArtifactPipeline.Proofs.Counters
import ArtifactPipeline.Proofs.Findings
import ArtifactPipeline.Proofs.Representation

/-!
# The store refines a database that is its history

However a store begins, and whatever happens to it, its lists are what the calls tell that it took
so far. So it answers every call as a database that remembers those calls and nothing else. A call
that is refused changes nothing, and what is appended stays.
-/

namespace ArtifactPipeline

/-! ## How a store begins -/

/-- A store begins empty, or with the standard rules and packages. -/
inductive StoreOrigin where
  | empty
  | policy (maxLines : Nat)

namespace StoreOrigin

/-- The store at the beginning. -/
def store : StoreOrigin → MemoryStore
  | empty => {}
  | policy maxLines => .withPolicy maxLines

/-- The calls that give an empty store the standard rules and packages. -/
def history : StoreOrigin → History
  | empty => []
  | policy maxLines =>
    (defaultRules maxLines).map .upsertRule ++
      defaultAllowlist.map (.addAllowedDependency none)

/-- The database at the beginning. -/
def database (o : StoreOrigin) : Database := { history := o.history }

/-- Rules that are written one after another change the rules only. -/
theorem foldl_upsertRule (m : MemoryStore) (rules : List Rule) :
    (rules.map StoreCall.upsertRule).foldl MemoryStore.written m =
      { m with rules := rules.foldl (fun items r =>
          putFirst (·.key == r.key) r items) m.rules } := by
  induction rules generalizing m with
  | nil => rfl
  | cons r rules ih => exact ih _

/-- Packages that are allowed for all one after another change their list only. -/
theorem foldl_addAllowedDependency (m : MemoryStore) (packages : List String) :
    (packages.map (StoreCall.addAllowedDependency none)).foldl MemoryStore.written m =
      { m with globalAllowlist := packages.foldl (fun allowed package =>
          MemoryStore.insertPackage package allowed) m.globalAllowlist } := by
  induction packages generalizing m with
  | nil => rfl
  | cons package packages ih => exact ih _

/-- No two of the standard rules have the same key. -/
theorem nodup_keys (maxLines : Nat) : ((defaultRules maxLines).map Rule.key).Nodup := by
  have hnames : ((defaultRules maxLines).map Rule.key).map RuleKey.name =
      (defaultRules maxLines).map (·.name) := List.map_map
  exact List.Nodup.of_map RuleKey.name (hnames ▸ StandardPolicy.nodup_names maxLines)

/-- A store begins with what its first history tells. -/
theorem represents (o : StoreOrigin) : o.store.Represents o.history := by
  cases o with
  | empty => exact MemoryStore.represents_empty
  | policy maxLines =>
    have hnone : ∀ c ∈ history (policy maxLines), c.session? = none := by
      intro c hc
      rcases List.mem_append.mp hc with hrule | hpackage
      · obtain ⟨r, -, rfl⟩ := List.mem_map.mp hrule
        rfl
      · obtain ⟨package, -, rfl⟩ := List.mem_map.mp hpackage
        rfl
    have hrules : (defaultRules maxLines).foldl
        (fun items r => putFirst (·.key == r.key) r items) [] = defaultRules maxLines :=
      foldl_putFirst (nodup_keys maxLines)
    have hpackages : defaultAllowlist.foldl (fun allowed package =>
        MemoryStore.insertPackage package allowed) [] = defaultAllowlist := by decide
    have hstore : (history (policy maxLines)).foldl MemoryStore.written {} =
        store (policy maxLines) := by
      rw [history, List.foldl_append, foldl_upsertRule, hrules, foldl_addAllowedDependency,
        hpackages]
      rfl
    rw [← hstore]
    exact MemoryStore.represents_empty.foldl_written hnone

end StoreOrigin

/-! ## Patterns and their uses -/

/-- Whether a call counts a use of a pattern, with its outcome. -/
def StoreCall.countsUse (id : String) (success : Bool) : StoreCall → Bool
  | recordPatternUsage used outcome => used == id && outcome == success
  | _ => false

/-- A call saves a pattern under a name, or lets the pattern that is found there grow by the use that
it counts, if any. -/
theorem StoreCall.onPattern_cases (id : String) (held : Option PatternRecord) (c : StoreCall) :
    (∃ p, c = savePattern p ∧ p.id = id ∧ c.onPattern id held = some p) ∨
      (∀ r, c.pattern? = some r → r.id ≠ id) ∧
        c.onPattern id held = held.map (·.grown (if c.countsUse id true then 1 else 0)
          (if c.countsUse id false then 1 else 0)) := by
  cases c with
  | savePattern p =>
    by_cases hid : p.id = id
    · exact .inl ⟨p, rfl, hid, if_pos hid⟩
    · refine .inr ⟨fun r hr => Option.some.inj hr ▸ hid, ?_⟩
      simp [onPattern, countsUse, hid]
  | recordPatternUsage used success =>
    refine .inr ⟨by simp [pattern?], ?_⟩
    by_cases hid : used = id
    · cases success <;> simp [onPattern, countsUse, hid, PatternRecord.count_eq_grown]
    · simp [onPattern, countsUse, hid]
  | _ => exact .inr ⟨by simp [pattern?], by simp [onPattern, countsUse]⟩

/-- A pattern that is found is the version that was saved last under its name, and has gained the
uses that were counted since then. -/
theorem History.gains_of_pattern? {h : History} {id : String} {q : PatternRecord}
    (hq : h.pattern? id = some q) :
    ∃ p before later, h = before ++ .savePattern p :: later ∧ p.id = id ∧
      (∀ c ∈ later, ∀ r, c.pattern? = some r → r.id ≠ id) ∧
      q = p.grown (later.countP (·.countsUse id true)) (later.countP (·.countsUse id false)) := by
  -- The history grows at its end, so it is taken apart from there.
  induction h using List.reverseRecOn generalizing q with
  | nil => cases hq
  | append_singleton h c ih =>
    rw [pattern?_append] at hq
    rcases c.onPattern_cases id (pattern? h id) with ⟨p, rfl, hid, hsaved⟩ | ⟨hother, hgrown⟩
    · obtain rfl : p = q := Option.some.inj (hsaved.symm.trans hq)
      exact ⟨p, h, [], rfl, hid, by simp, by simp⟩
    · obtain ⟨held, hheld, rfl⟩ := Option.map_eq_some_iff.mp (hgrown.symm.trans hq)
      obtain ⟨p, before, later, rfl, hid, hlater, rfl⟩ := ih hheld
      refine ⟨p, before, later ++ [c], ?_, hid, ?_, ?_⟩
      · rw [List.append_assoc, List.cons_append]
      · intro c' hc'
        rcases List.mem_append.mp hc' with hc' | hc'
        · exact hlater c' hc'
        · exact List.mem_singleton.mp hc' ▸ hother
      · rw [PatternRecord.grown_grown, List.countP_append, List.countP_append,
          List.countP_singleton, List.countP_singleton]

/-! ## The refinement -/

namespace MemoryStore

variable {m : MemoryStore} {d : Database}

/-- The store is what the history of the database tells, and both are off or on. -/
structure Agrees (m : MemoryStore) (d : Database) : Prop where
  represents : m.Represents d.history
  offline : m.offline = d.offline

/-- Store and database answer alike. -/
theorem Agrees.call (h : m.Agrees d) (c : StoreCall) :
    (m.call c).map (·.1) = (d.call c).map (·.1) := by
  have hanswer := h.represents.answer c
  unfold MemoryStore.call Database.call
  rw [h.offline]
  by_cases hoff : d.offline = true
  · simp [hoff, Except.map]
  · rw [if_neg hoff, if_neg hoff, hanswer]
    cases d.history.answer c <;> rfl

/-- Whatever happens, store and database agree after it. -/
theorem Agrees.step (h : m.Agrees d) (e : StoreEvent) : (m.step e).Agrees (d.step e) := by
  cases e with
  | setOffline offline =>
    obtain ⟨hsessions, hpatterns, hrules, hpackages, hlogs, haudit, hreviews⟩ := h.represents
    exact ⟨⟨hsessions, hpatterns, hrules, hpackages, hlogs, haudit, hreviews⟩, rfl⟩
  | call c =>
    have hanswer := h.represents.answer c
    by_cases hoff : d.offline = true
    · have hm : m.call c = .error .offline := if_pos (h.offline.trans hoff)
      have hd : d.call c = .error .offline := if_pos hoff
      simpa [MemoryStore.step, Database.step, hm, hd] using h
    · have hm : m.call c = m.answer c := if_neg (h.offline ▸ hoff)
      have hd : d.call c = (d.history.answer c).map fun answer =>
        (answer, { d with history := d.history ++ [c] }) := if_neg hoff
      cases hresult : m.answer c with
      | error failure =>
        have hrefused : d.history.answer c = .error failure := by
          rw [← hanswer, hresult]
          rfl
        simpa [MemoryStore.step, Database.step, hm, hd, hresult, hrefused, Except.map] using h
      | ok result =>
        obtain ⟨answer, next⟩ := result
        have htaken : d.history.answer c = .ok answer := by
          rw [← hanswer, hresult]
          rfl
        obtain ⟨rfl, hsession⟩ := answer_cases hresult
        have hnext : (m.written c).Agrees { d with history := d.history ++ [c] } :=
          ⟨h.represents.written hsession, (m.offline_written c).trans h.offline⟩
        simpa [MemoryStore.step, Database.step, hm, hd, hresult, htaken, Except.map] using hnext

/-- A store and its database agree after any events if they agreed before. -/
theorem Agrees.run (h : m.Agrees d) (events : List StoreEvent) :
    (m.run events).Agrees (d.run events) := by
  induction events generalizing m d with
  | nil => exact h
  | cons e events ih => exact ih (h.step e)

/-- What is appended stays. -/
structure Grows (m next : MemoryStore) : Prop where
  logs : m.logs <+: next.logs
  audit : m.audit <+: next.audit
  reviews : m.reviews <+: next.reviews

/-- One event takes nothing away of what has been appended. -/
theorem step_grows (m : MemoryStore) (e : StoreEvent) : m.Grows (m.step e) := by
  cases e with
  | setOffline offline => exact ⟨List.prefix_rfl, List.prefix_rfl, List.prefix_rfl⟩
  | call c =>
    rcases m.step_call c with hsame | hwritten
    · rw [hsame]
      exact ⟨List.prefix_rfl, List.prefix_rfl, List.prefix_rfl⟩
    · rw [hwritten]
      constructor
      · rw [logs_written]
        exact List.prefix_append ..
      · rw [audit_written]
        exact List.prefix_append ..
      · rw [reviews_written]
        exact List.prefix_append ..

/-- No events take anything away of what has been appended. -/
theorem run_grows (m : MemoryStore) (events : List StoreEvent) : m.Grows (m.run events) := by
  induction events generalizing m with
  | nil => exact ⟨List.prefix_rfl, List.prefix_rfl, List.prefix_rfl⟩
  | cons e events ih =>
    have hfirst := m.step_grows e
    have hrest := ih (m.step e)
    exact ⟨hfirst.logs.trans hrest.logs, hfirst.audit.trans hrest.audit,
      hfirst.reviews.trans hrest.reviews⟩

/-- The store refines a database that is its history. -/
structure Refines (m : MemoryStore) (d : Database) : Prop where
  /-- Every call is answered as the history tells, or refused for the same reason. -/
  answers : ∀ c, (m.call c).map (·.1) = (d.call c).map (·.1)
  sessionIds : (m.sessions.map (·.id)).Nodup
  patternIds : (m.patterns.map (·.id)).Nodup
  ruleKeys : (m.rules.map Rule.key).Nodup
  packages : ∀ scope, (m.packagesFor scope).Nodup
  allowlists : ∀ tenant, (m.resolvedAllowlist tenant).Nodup
  /-- No session is found iff none was created under the name. -/
  session : ∀ id, d.history.session? id = none ↔ id ∉ d.history.sessionIds
  /-- No pattern is found iff none was saved under the name. -/
  pattern : ∀ id, d.history.pattern? id = none ↔ id ∉ d.history.patternIds
  /-- A pattern that is found is the version that was saved last under its name, and has gained the
  uses that were counted since then. -/
  counters : ∀ id q, d.history.pattern? id = some q → ∃ p before later,
    d.history = before ++ .savePattern p :: later ∧ p.id = id ∧
      (∀ c ∈ later, ∀ r, c.pattern? = some r → r.id ≠ id) ∧
      p.Gains q (later.countP (·.countsUse id true)) (later.countP (·.countsUse id false))
  /-- A call that is refused changes nothing. -/
  refused : ∀ c failure, m.call c = .error failure → m.step (.call c) = m
  /-- A store that is switched off refuses every call. -/
  offline : m.offline = true → ∀ c, m.call c = .error .offline
  /-- Whatever happens later, the log, the audit trail and the reviews only grow at the end. -/
  grows : ∀ events, m.Grows (m.run events)

end MemoryStore

/-- At every moment, the store refines the database that is its history: however a store begins,
whatever calls are made, and however often it is switched off and on. -/
theorem StoreOrigin.run_refines (o : StoreOrigin) (events : List StoreEvent) :
    (o.store.run events).Refines (o.database.run events) := by
  have hstart : o.store.Agrees o.database := by
    refine ⟨o.represents, ?_⟩
    cases o <;> rfl
  have hagrees := hstart.run events
  have hrepresents := hagrees.represents
  constructor
  case answers => exact hagrees.call
  case sessionIds => exact hrepresents.sessions.order ▸ hrepresents.sessions.distinct
  case patternIds => exact hrepresents.patterns.order ▸ hrepresents.patterns.distinct
  case ruleKeys => exact hrepresents.rules.order ▸ hrepresents.rules.distinct
  case packages => exact fun scope => hrepresents.packages scope ▸ nodup_eraseDups _
  case allowlists => exact fun tenant => nodup_eraseDups _
  case session => exact fun id => hrepresents.sessions.version_eq_none
  case pattern => exact fun id => hrepresents.patterns.version_eq_none
  case counters =>
    intro id q hq
    obtain ⟨p, before, later, hhistory, hid, hlater, rfl⟩ := History.gains_of_pattern? hq
    exact ⟨p, before, later, hhistory, hid, hlater, p.gains_grown _ _⟩
  case refused =>
    intro c failure hcall
    simp [MemoryStore.step, hcall]
  case offline => exact fun hoff c => if_pos hoff
  case grows => exact fun later => MemoryStore.run_grows _ later

end ArtifactPipeline
