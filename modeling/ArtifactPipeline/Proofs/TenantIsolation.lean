import ArtifactPipeline.Metrics.Tenant
import ArtifactPipeline.Proofs.Confinement
import ArtifactPipeline.Proofs.Findings

/-!
# Tenants are isolated

What a tenant reads from the store, its figures and the verdicts on its components are computed from
what is for it or for all. So nothing that is done in the name of another tenant makes a difference
to them. And what is done in the name of a tenant does not touch the rules for all: they stay in
force for that tenant too, and what they reject stays rejected.
-/

namespace ArtifactPipeline

variable {σ π α : Type}

/-! ## Reading -/

/-- What is read, unless the reading is refused. -/
def reading (refusal : Option StoreError) (a : α) : Except Failure α :=
  match refusal with
  | some e => .error e.toFailure
  | none => .ok a

/-- What is computed from a reading is refused if the reading is. -/
theorem map_reading {β : Type} (f : α → β) (refusal : Option StoreError) (a : α) :
    (reading refusal a).map f = reading refusal (f a) := by
  cases refusal <;> rfl

/-- A reading that was answered was not refused. -/
theorem eq_none_of_reading {refusal : Option StoreError} {a b : α}
    (h : reading refusal a = .ok b) : refusal = none := by
  cases refusal with
  | none => rfl
  | some e => cases h

/-- Why a call of a method that only reads is refused, if it is. -/
def World.refusal? (w : World σ π) (method : StoreMethod) : Option StoreError :=
  if w.faults method (w.callCount method) then some (.unavailable method)
  else if w.store.offline then some .offline
  else none

/-- Whether a reading is refused depends on the faults of the store, on how often the method has
been called, and on whether the store is switched off. -/
theorem World.refusal?_congr {w w' : World σ π} {method : StoreMethod}
    (hfaults : w'.faults = w.faults) (hcount : w'.callCount method = w.callCount method)
    (hoffline : w'.store.offline = w.store.offline) : w'.refusal? method = w.refusal? method := by
  unfold refusal?
  rw [hfaults, hcount, hoffline]

namespace Work

variable {w : World σ π} {c : StoreCall}

/-- A call whose method is refused breaks off with the refusal. -/
theorem store_refused {e : StoreError} (h : w.refusal? c.method = some e) :
    ∃ w', Work.store c w = .error e.toFailure w' := by
  have hreply : w.reply c = .error e := by
    unfold World.refusal? at h
    unfold World.reply
    by_cases hfault : w.faults c.method (w.callCount c.method) = true
    · rw [if_pos hfault] at h ⊢
      rw [Option.some.inj h]
    · rw [if_neg hfault] at h ⊢
      by_cases hoffline : w.store.offline = true
      · rw [if_pos hoffline] at h
        rw [MemoryStore.call, if_pos hoffline, Option.some.inj h]
      · rw [if_neg hoffline] at h
        cases h
  refine ⟨{ w with journal := w.journal ++ [.store c (some e)] }, ?_⟩
  simp only [Work.store, ofOutcome, World.call, hreply]
  rfl

/-- A call that only reads leaves its trace in the journal and nowhere else. -/
theorem store_read {a : c.Answer} (hanswer : w.store.answer c = .ok (a, w.store))
    (h : w.refusal? c.method = none) :
    Work.store c w = .ok a { w with journal := w.journal ++ [.store c none] } := by
  unfold World.refusal? at h
  split at h
  · cases h
  · next hfault =>
    split at h
    · cases h
    · next hoffline =>
      have hcall : w.store.call c = .ok (a, w.store) := (if_neg hoffline).trans hanswer
      exact Work.store_eq (eq_false_of_ne_true hfault) hcall

/-- The outcome of a call that only reads is its answer, unless it is refused. -/
theorem outcome_store {a : c.Answer} (hanswer : w.store.answer c = .ok (a, w.store)) :
    ((Work.store c).outcome w).1 = reading (w.refusal? c.method) a := by
  cases hrefusal : w.refusal? c.method with
  | none => rw [outcome, store_read hanswer hrefusal, reading]
  | some e =>
    obtain ⟨w', hrefused⟩ := store_refused hrefusal
    rw [outcome, hrefused, reading]

/-- Work that begins with a reading fails if that is refused, and else goes on with what was
read. -/
theorem outcome_store_bind {β : Type} {a : c.Answer} (g : c.Answer → Work σ π β)
    (hanswer : w.store.answer c = .ok (a, w.store)) : ((Work.store c >>= g).outcome w).1 =
      (reading (w.refusal? c.method) ()).bind fun _ =>
        ((g a).outcome { w with journal := w.journal ++ [.store c none] }).1 := by
  cases hrefusal : w.refusal? c.method with
  | none =>
    rw [outcome, bind_ok g (store_read hanswer hrefusal)]
    rfl
  | some e =>
    obtain ⟨w', hrefused⟩ := store_refused hrefusal
    rw [outcome, bind_error g hrefused]
    rfl

/-- The figures about a tenant are those about the sessions that are listed for it. -/
theorem outcome_tenantMetrics (tenant : String) (w : World σ π) :
    ((tenantMetrics tenant).outcome w).1 = reading (w.refusal? .listSessions)
      (TenantMetrics.ofSessions (w.store.sessions.filter (·.tenant == tenant))) := by
  have hmethod : (StoreCall.listSessions tenant).method = .listSessions := rfl
  rw [tenantMetrics, outcome_store_bind _ rfl, hmethod]
  cases w.refusal? .listSessions <;> rfl

/-- A validation reads the rules and the allowed packages of a tenant, and then comes to the verdict
that they give. -/
theorem outcome_validate (code : String) (session : Option SessionId) (tenant : String)
    (w : World σ π) : ((validate code session tenant).outcome w).1 =
      reading ((w.refusal? .activeRules).or (w.refusal? .allowlist)) (w.assess tenant code) := by
  -- The first reading does not count as a call of the other method.
  have hsecond : World.refusal?
      { w with journal := w.journal ++ [.store (.activeRules tenant) none] }
      (StoreCall.allowlist tenant).method = w.refusal? .allowlist := by
    refine World.refusal?_congr rfl ?_ rfl
    exact List.countP_append.trans (Nat.add_zero _)
  have hmethod : (StoreCall.activeRules tenant).method = .activeRules := rfl
  rw [validate, outcome_store_bind _ rfl, outcome_store_bind _ rfl, hsecond, hmethod]
  cases w.refusal? .activeRules with
  | some e => rfl
  | none => cases w.refusal? .allowlist <;> rfl

end Work

/-! ## What others see -/

namespace Shared

/-- A world with what the tenants share. -/
def within (s : Shared) (w : World σ π) : World σ π :=
  { w with store := s.store, regexes := s.regexes }

/-- The outcome of work in a world with what the tenants share. -/
def outcome (s : Shared) (w : World σ π) (work : Work σ π α) : Except Failure α :=
  (work.outcome (s.within w)).1

/-- What a tenant is answered is the same in two states, whatever else the world is like. -/
structure SameFor (tenant : String) (s s' : Shared) : Prop where
  activeRules : ∀ {σ π : Type} (w : World σ π),
    s'.outcome w (Work.store (.activeRules tenant)) = s.outcome w (Work.store (.activeRules tenant))
  allowlist : ∀ {σ π : Type} (w : World σ π),
    s'.outcome w (Work.store (.allowlist tenant)) = s.outcome w (Work.store (.allowlist tenant))
  sessions : ∀ {σ π : Type} (w : World σ π),
    s'.outcome w (Work.store (.listSessions tenant)) =
      s.outcome w (Work.store (.listSessions tenant))
  metrics : ∀ {σ π : Type} (w : World σ π),
    s'.outcome w (tenantMetrics tenant) = s.outcome w (tenantMetrics tenant)
  verdict : ∀ {σ π : Type} (w : World σ π) (code : String) (session : Option SessionId),
    s'.outcome w (validate code session tenant) = s.outcome w (validate code session tenant)

/-- A rule for all tenants rejects a component of one of them: it is in force and blocks, and it
fails on the component, which it judges without regard to the allowed packages. -/
structure Rejects (s : Shared) (rule : Rule) (tenant code : String) : Prop where
  held : rule ∈ s.store.rules
  forAll : rule.tenant = none
  enabled : rule.enabled = true
  blocks : rule.severity = .block
  kind : rule.kind ≠ .dependencyAllowlist
  fails : Policy.Fails code.toList (s.store.resolvedAllowlist tenant) s.regexes rule

/-- The rules for all tenants stay in force for one of them. -/
structure PolicyKept (tenant : String) (s s' : Shared) : Prop where
  /-- Those among the rules in force for the tenant that are for all stay the same. -/
  rules : ∀ {σ π : Type} (w : World σ π),
    (s'.outcome w (Work.store (.activeRules tenant))).map (·.filter (·.tenant == none)) =
      (s.outcome w (Work.store (.activeRules tenant))).map (·.filter (·.tenant == none))
  /-- A component that a rule for all rejects stays rejected if it is validated for the tenant, and
  that rule is named. -/
  rejected : ∀ {σ π : Type} (w : World σ π) (code : String) (session : Option SessionId)
    (rule : Rule) (verdict : Verdict), s.Rejects rule tenant code →
    s.outcome w (validate code session tenant) = .ok verdict →
    ∃ verdict', s'.outcome w (validate code session tenant) = .ok verdict' ∧
      verdict'.isValid = false ∧ rule.name ∈ verdict'.failed

end Shared

/-- What passes a finer test is known from what passes a coarser one. -/
theorem filter_congr_of_filter {p q : α → Bool} {items items' : List α}
    (hfiner : ∀ a, p a = true → q a = true) (h : items'.filter q = items.filter q) :
    items'.filter p = items.filter p := by
  have hboth : ∀ a, (p a && q a) = p a := by
    intro a
    cases hp : p a with
    | false => rfl
    | true => exact hfiner a hp
  have hfilter := congrArg (List.filter p) h
  rwa [List.filter_filter, List.filter_filter, funext hboth] at hfilter

/-- A rule that is in force for a tenant is for all or for this tenant. -/
theorem Rule.scope_of_appliesTo {r : Rule} {tenant : String} (h : r.appliesTo tenant = true) :
    r.tenant = none ∨ r.tenant = some tenant := by
  rw [MemoryStore.appliesTo_eq] at h
  simpa using (Bool.and_eq_true_iff.mp h).2

namespace Confined

variable {tenant other : String} {s s' : Shared}

/-- What is limited to a tenant does not make the store refuse anything more or less. -/
theorem refusal? (h : Confined tenant s s') (w : World σ π) (method : StoreMethod) :
    (s'.within w).refusal? method = (s.within w).refusal? method :=
  World.refusal?_congr rfl rfl h.offline

/-- What is limited to a tenant leaves the rules of another one as they are. -/
theorem rulesFor (h : Confined tenant s s') (hother : other ≠ tenant) :
    s'.store.rules.filter (·.appliesTo other) = s.store.rules.filter (·.appliesTo other) := by
  refine filter_congr_of_filter (fun r hr => ?_) h.rules
  rcases Rule.scope_of_appliesTo hr with hscope | hscope
  · simp [hscope]
  · simpa [hscope] using hother

/-- What is limited to a tenant leaves the allowed packages of another one as they are. -/
theorem packagesFor (h : Confined tenant s s') (hother : other ≠ tenant) :
    s'.store.resolvedAllowlist other = s.store.resolvedAllowlist other := by
  have hown : s'.store.packagesFor (some other) = s.store.packagesFor (some other) :=
    h.packages (some other) fun heq => hother (Option.some.inj heq)
  have hall : s'.store.packagesFor none = s.store.packagesFor none :=
    h.packages none (Option.some_ne_none tenant).symm
  exact congrArg₂ (fun own all => (own ++ all).eraseDups) hown hall

/-- What is limited to a tenant leaves the sessions of another one as they are. -/
theorem sessionsFor (h : Confined tenant s s') (hother : other ≠ tenant) :
    s'.store.sessions.filter (·.tenant == other) =
      s.store.sessions.filter (·.tenant == other) := by
  refine filter_congr_of_filter (fun session hsession => ?_) h.sessions
  have htenant : session.tenant = other := eq_of_beq hsession
  simpa [htenant] using hother

/-- What is limited to a tenant leaves the verdicts for another one as they are. -/
theorem assess (h : Confined tenant s s') (hother : other ≠ tenant) (w : World σ π)
    (code : String) : (s'.within w).assess other code = (s.within w).assess other code := by
  have hrules := h.rulesFor hother
  have hpackages := h.packagesFor hother
  simp only [World.assess, Shared.within, hrules, hpackages]
  exact Policy.evaluate_congr _ _ _ h.programs

/-- What is confined to a tenant makes no difference to another one. -/
theorem sameFor (h : Confined tenant s s') (hother : other ≠ tenant) :
    Shared.SameFor other s s' := by
  constructor
  case activeRules =>
    intro _ _ w
    rw [Shared.outcome, Work.outcome_store rfl, Shared.outcome, Work.outcome_store rfl]
    exact congrArg₂ reading (h.refusal? w _) (h.rulesFor hother)
  case allowlist =>
    intro _ _ w
    rw [Shared.outcome, Work.outcome_store rfl, Shared.outcome, Work.outcome_store rfl]
    exact congrArg₂ reading (h.refusal? w _) (h.packagesFor hother)
  case sessions =>
    intro _ _ w
    rw [Shared.outcome, Work.outcome_store rfl, Shared.outcome, Work.outcome_store rfl]
    exact congrArg₂ reading (h.refusal? w _) (h.sessionsFor hother)
  case metrics =>
    intro _ _ w
    rw [Shared.outcome, Work.outcome_tenantMetrics, Shared.outcome, Work.outcome_tenantMetrics]
    exact congrArg₂ reading (h.refusal? w _)
      (congrArg TenantMetrics.ofSessions (h.sessionsFor hother))
  case verdict =>
    intro _ _ w code session
    rw [Shared.outcome, Work.outcome_validate, Shared.outcome, Work.outcome_validate,
      h.refusal? w, h.refusal? w, h.assess hother]

/-- What is confined to a tenant leaves the rules for all in force for it. -/
theorem policyKept (h : Confined tenant s s') : Shared.PolicyKept tenant s s' := by
  constructor
  case rules =>
    intro _ _ w
    have hforAll : (s'.store.rules.filter (·.appliesTo tenant)).filter (·.tenant == none) =
        (s.store.rules.filter (·.appliesTo tenant)).filter (·.tenant == none) := by
      rw [List.filter_filter, List.filter_filter]
      refine filter_congr_of_filter (fun r hr => ?_) h.rules
      have hscope : r.tenant = none := eq_of_beq (Bool.and_eq_true_iff.mp hr).1
      simp [hscope]
    rw [Shared.outcome, Work.outcome_store rfl, Shared.outcome, Work.outcome_store rfl,
      map_reading, map_reading]
    exact congrArg₂ reading (h.refusal? w _) hforAll
  case rejected =>
    intro _ _ w code session rule verdict hrejects hbefore
    rw [Shared.outcome, Work.outcome_validate] at hbefore ⊢
    rw [h.refusal? w, h.refusal? w, eq_none_of_reading hbefore]
    have hheld : rule ∈ s'.store.rules := by
      have hkept : rule ∈ s.store.rules.filter (·.tenant != some tenant) :=
        List.mem_filter.mpr ⟨hrejects.held, by simp [hrejects.forAll]⟩
      rw [← h.rules] at hkept
      exact List.mem_of_mem_filter hkept
    have hinForce : rule ∈ s'.store.rules.filter (·.appliesTo tenant) := by
      refine List.mem_filter.mpr ⟨hheld, ?_⟩
      simp [MemoryStore.appliesTo_eq, hrejects.enabled, hrejects.forAll]
    have hfails : Policy.Fails code.toList (s'.store.resolvedAllowlist tenant) s'.regexes rule :=
      (Policy.fails_congr hrejects.kind h.programs.symm).mp hrejects.fails
    exact ⟨_, rfl, Policy.isValid_eq_false_iff.mpr ⟨rule, hinForce, hrejects.blocks, hfails⟩,
      Policy.mem_failed.mpr ⟨rule, hinForce, rfl, hfails⟩⟩

end Confined

/-- Whatever is done in the name of a tenant, one thing after the other, makes no difference to
another tenant, and does not relax the rules for all. -/
theorem Shared.tenants_isolated {tenant other : String} (hother : other ≠ tenant) {s s' : Shared}
    (h : Relation.ReflTransGen (ScopedStep tenant) s s') :
    SameFor other s s' ∧ PolicyKept tenant s s' := by
  have hconfined := confined_of_steps h
  exact ⟨hconfined.sameFor hother, hconfined.policyKept⟩

/-- A tenant stores a rule and allows itself a package, and then a request of it is worked on, in a
store with the standard policy that holds a session of another tenant. The limit on lines, which is
for all, rejects a component of two lines. -/
theorem Shared.acme_isolated_from_globex :
    let limit : Rule := {
      name := "max_lines", kind := .resourceLimit .lineCount 1, severity := .block }
    let rule : Rule := {
      name := "no_todo", kind := .pattern "TODO", severity := .block, tenant := some "acme" }
    let request : ComponentRequest := { tenant := "acme", user := "ann", prompt := "A button" }
    let held : Session := .new ⟨7⟩ { request with tenant := "globex" } 3 default
    let w : World ScriptedModel MemoryPublisher := {
      store := { MemoryStore.withPolicy 1 with sessions := [held] }
      faults := fun method number => method = .recordPatternUsage && number = 1
      model := {}
      publisher := { names := fun _ => "artifact" }
      regexes := { limit := 1048576 }
      journal := []
      clock := fun reading => ⟨reading, 0⟩
      readings := 0
      ids := fun number => ⟨number⟩
      begun := 0 }
    let ready := (w.store.step (.call (.upsertRule rule))).step
      (.call (.addAllowedDependency (some "acme") "lodash"))
    ∃ report w', Entry.streaming.run {} request { w with store := ready } = some (report, w') ∧
      Relation.ReflTransGen (ScopedStep "acme") w.shared w'.shared ∧ "globex" ≠ "acme" ∧
      w.shared.Rejects limit "acme" "<p>\n</p>" ∧
      SameFor "globex" w.shared w'.shared ∧ PolicyKept "acme" w.shared w'.shared := by
  intro limit rule request held w ready
  obtain ⟨f, -, hrun⟩ := Entry.streaming.run_eq {} request { w with store := ready }
  have hfresh : ∀ t ∈ ready.sessions, t.id ≠ w.freshId.1 := by
    have hsessions : ready.sessions = [held] := rfl
    simp [hsessions, held, w, World.freshId, Session.new]
  have hsteps : Relation.ReflTransGen (ScopedStep "acme") w.shared f.world.shared :=
    .tail (.tail (.single (.rule rule rfl)) (.package "lodash")) (.run rfl hfresh hrun)
  have hother : "globex" ≠ "acme" := by decide
  have hrejects : w.shared.Rejects limit "acme" "<p>\n</p>" := {
    held := List.mem_cons_self
    forAll := rfl
    enabled := rfl
    blocks := rfl
    kind := by simp [limit]
    fails := rfl }
  exact ⟨_, _, hrun, hsteps, hother, hrejects, tenants_isolated hother hsteps⟩

end ArtifactPipeline
