import ArtifactPipeline.Proofs.Representation
import ArtifactPipeline.Proofs.StoredReport
import ArtifactPipeline.Proofs.Streams
import Mathlib.Logic.Relation

/-!
# What is limited to a tenant

Tenants share a store and the compiled patterns. What is done in the name of a tenant is confined to
it: the rules and packages of other tenants, those for all, and the sessions of other tenants stay
as they are, in their order, and so do the programs of the patterns.
-/

namespace ArtifactPipeline

variable {σ π : Type}

/-- What all tenants share. -/
structure Shared where
  store : MemoryStore
  regexes : RegexCache

/-- What a world has that the tenants share. -/
def World.shared (w : World σ π) : Shared := ⟨w.store, w.regexes⟩

/-- Nothing changes but what is limited to a tenant. -/
structure Confined (tenant : String) (s s' : Shared) : Prop where
  offline : s'.store.offline = s.store.offline
  rules : s'.store.rules.filter (·.tenant != some tenant) =
    s.store.rules.filter (·.tenant != some tenant)
  packages : ∀ scope, scope ≠ some tenant → s'.store.packagesFor scope = s.store.packagesFor scope
  sessions : s'.store.sessions.filter (·.tenant != tenant) =
    s.store.sessions.filter (·.tenant != tenant)
  programs : s'.regexes.program = s.regexes.program

namespace Confined

variable {tenant : String} {s s' s'' : Shared}

/-- Doing nothing is limited to any tenant. -/
theorem refl (tenant : String) (s : Shared) : Confined tenant s s :=
  ⟨rfl, rfl, fun _ _ => rfl, rfl, rfl⟩

/-- What is limited to a tenant in both of its parts is so as a whole. -/
theorem trans (h : Confined tenant s s') (h' : Confined tenant s' s'') :
    Confined tenant s s'' where
  offline := h'.offline.trans h.offline
  rules := h'.rules.trans h.rules
  packages scope hscope := (h'.packages scope hscope).trans (h.packages scope hscope)
  sessions := h'.sessions.trans h.sessions
  programs := h'.programs.trans h.programs

/-- A call is confined to a tenant if it writes no session, and only rules and packages of that
tenant. -/
theorem call (s : Shared) {c : StoreCall} (hsession : c.session? = none)
    (hrule : ∀ r, c.rule? = some r → r.tenant = some tenant)
    (hpackage : ∀ scope, scope ≠ some tenant → c.package? scope = none) :
    Confined tenant s { s with store := s.store.step (.call c) } := by
  rcases s.store.step_call c with hsame | hwritten
  · rw [hsame]
    exact refl tenant s
  · rw [hwritten]
    constructor
    case offline => exact s.store.offline_written c
    case rules =>
      rw [MemoryStore.rules_written]
      cases hr : c.rule? with
      | none => rfl
      | some r =>
        have hscope : r.tenant = some tenant := hrule r hr
        -- The rule that is replaced has the same key, so it is limited to the same tenant.
        have hsame : ∀ r' ∈ s.store.rules, (r'.key == r.key) = true →
            (r'.tenant != some tenant) = false := by
          intro r' _ hkey
          have hscopes : r'.tenant = r.tenant := congrArg RuleKey.scope (eq_of_beq hkey)
          simp [hscopes, hscope]
        exact filter_putFirst hsame (by simp [hscope])
    case packages =>
      intro scope hscope
      rw [MemoryStore.packagesFor_written, hpackage scope hscope]
    case sessions => rw [MemoryStore.sessions_written, hsession]
    case programs => rfl

end Confined

/-! ## The work on a request -/

/-- The version of a session that the store was offered. -/
def Effect.offered? : Effect → Option Session
  | .store c _ => c.session?
  | _ => none

/-- What leaves the stored session alone offers no version of it. -/
theorem Effect.offered?_of_isAside {e : Effect} (h : e.isAside = true) : e.offered? = none := by
  match e, h with
  | .model .., _ | .publish .., _ => rfl
  | .store c _, h => cases c <;> first | rfl | cases h

/-- Every version of a session that the store is offered while the session is worked on has its
origin. -/
theorem SessionRun.Steps.offered {r r' : SessionRun} {xs : List Effect} (h : r.Steps xs r') :
    ∀ s ∈ xs.filterMap Effect.offered?, s.origin = r.session.origin := by
  have hsteps := h.preserve (P := fun done r' => r'.session.origin = r.session.origin ∧
    ∀ s ∈ done.filterMap Effect.offered?, s.origin = r.session.origin) ?_ [] ⟨rfl, by simp⟩
  · exact hsteps.2
  · rintro done xs r₁ r₂ ⟨horigin, hdone⟩ hstep
    cases hstep with
    | ask he =>
      exact ⟨horigin, by simpa [Effect.offered?_of_isAside he] using hdone⟩
    | change _ hchange _ => exact ⟨hchange.trans horigin, by simpa using hdone⟩
    | log => exact ⟨horigin, by simpa [Effect.offered?, StoreCall.session?] using hdone⟩
    | @move moved _ _ _ _ hmove _ _ =>
      have hmoved : moved.origin = r.session.origin := hmove.trans horigin
      refine ⟨hmoved, fun s hs => ?_⟩
      rw [List.filterMap_append, List.mem_append] at hs
      rcases hs with hs | hs
      · exact hdone s hs
      · obtain rfl : moved = s := by simpa [Effect.offered?, StoreCall.session?] using hs
        exact hmoved

namespace MemoryStore

variable {m : MemoryStore} {id : SessionId} {tenant : String}

/-- The sessions with a name are sessions of a tenant. -/
def Assigns (m : MemoryStore) (id : SessionId) (tenant : String) : Prop :=
  ∀ s ∈ m.sessions, s.id = id → s.tenant = tenant

/-- Storing a session of a tenant under its name leaves the sessions of others alone. -/
theorem Assigns.replay {e : Effect} (h : m.Assigns id tenant)
    (hoffered : ∀ s, e.offered? = some s → s.id = id ∧ s.tenant = tenant) :
    (m.replay e).Assigns id tenant ∧
      (m.replay e).sessions.filter (·.tenant != tenant) =
        m.sessions.filter (·.tenant != tenant) := by
  match e with
  | .model .. | .publish .. | .store _ (some _) => exact ⟨h, rfl⟩
  | .store c none =>
    simp only [MemoryStore.replay]
    split
    · next answer next hanswer =>
      obtain ⟨rfl, -⟩ := answer_cases hanswer
      unfold Assigns
      rw [sessions_written]
      cases hs : c.session? with
      | none => exact ⟨h, rfl⟩
      | some s =>
        obtain ⟨hid, htenant⟩ := hoffered s hs
        constructor
        · intro t ht hname
          rcases mem_of_mem_putFirst ht with rfl | ht
          · exact htenant
          · exact h t ht hname
        · refine filter_putFirst (fun t ht hname => ?_) (by simp [htenant])
          have hown : t.id = id := (eq_of_beq hname).trans hid
          simp [h t ht hown]
    · exact ⟨h, rfl⟩

/-- Versions of a session of one tenant leave the sessions of all others as they are. -/
theorem Assigns.foldl_replay {effects : List Effect} (h : m.Assigns id tenant)
    (hoffered : ∀ s ∈ effects.filterMap Effect.offered?, s.id = id ∧ s.tenant = tenant) :
    (effects.foldl MemoryStore.replay m).sessions.filter (·.tenant != tenant) =
      m.sessions.filter (·.tenant != tenant) := by
  induction effects generalizing m with
  | nil => rfl
  | cons e effects ih =>
    have hfirst := h.replay fun s hs => hoffered s (List.mem_filterMap.mpr ⟨e, by simp, hs⟩)
    rw [List.foldl_cons, ih hfirst.1 fun s hs => ?_, hfirst.2]
    obtain ⟨e', he', hs⟩ := List.mem_filterMap.mp hs
    exact hoffered s (List.mem_filterMap.mpr ⟨e', by simp [he'], hs⟩)

end MemoryStore

/-- The work on a session under a new name is confined to the tenant of that session. -/
theorem Flight.Since.confined {w : World σ π} {created : Session} {creation : Option StoreError}
    {steps : List Effect} {f : Flight σ π} (h : f.Since w created creation steps)
    (hfresh : ∀ t ∈ w.store.sessions, t.id ≠ created.id) :
    Confined created.tenant w.shared f.world.shared := by
  have hstore := h.moves.store
  have hregime := h.moves.regime
  constructor
  case offline =>
    change f.world.store.offline = w.store.offline
    rw [hstore, MemoryStore.foldl_replay_offline]
  case rules => exact congrArg (List.filter (·.tenant != some created.tenant)) h.moves.rules
  case packages =>
    intro scope _
    cases scope with
    | none => exact congrArg MemoryStore.Regime.globalAllowlist hregime
    | some other =>
      have htenants : f.world.store.tenantAllowlists = w.store.tenantAllowlists :=
        congrArg MemoryStore.Regime.tenantAllowlists hregime
      exact congrArg (fun lists => (List.lookup other lists).getD []) htenants
  case sessions =>
    -- No stored session has the new name, so none of another tenant has it.
    have hassigns : w.store.Assigns created.id created.tenant :=
      fun t ht hid => absurd hid (hfresh t ht)
    change f.world.store.sessions.filter (·.tenant != created.tenant) =
      w.store.sessions.filter (·.tenant != created.tenant)
    rw [hstore]
    refine hassigns.foldl_replay fun s hs => ?_
    have horigin : s.origin = created.origin := by
      have hcreated : (Effect.store (.createSession created) creation).offered? = some created :=
        rfl
      rw [List.filterMap_cons_some hcreated, List.mem_cons] at hs
      rcases hs with rfl | hs
      · rfl
      · exact h.steps.offered s hs
    exact ⟨congrArg Origin.id horigin, congrArg Origin.tenant horigin⟩
  case programs => exact h.moves.programs

/-! ## What is done in the name of a tenant -/

/-- Something is done in the name of a tenant. -/
inductive ScopedStep (tenant : String) : Shared → Shared → Prop
  /-- A rule for the tenant is stored, or refused. -/
  | rule {s : Shared} (r : Rule) : r.tenant = some tenant →
    ScopedStep tenant s { s with store := s.store.step (.call (.upsertRule r)) }
  /-- A package is allowed for the tenant, or refused. -/
  | package {s : Shared} (package : String) :
    ScopedStep tenant s
      { s with store := s.store.step (.call (.addAllowedDependency (some tenant) package)) }
  /-- A request of the tenant is worked on to its end, under a name that no stored session has.
  Whatever serves the request, and whatever fails, is up to the world. -/
  | run {σ π : Type} [ModelService σ] [Publisher π] {entry : Entry} {config : Config}
    {request : ComponentRequest} {w w' : World σ π} {report : SessionReport} :
    request.tenant = tenant → (∀ t ∈ w.store.sessions, t.id ≠ w.freshId.1) →
    entry.run config request w = some (report, w') → ScopedStep tenant w.shared w'.shared

variable {tenant : String} {s s' : Shared}

/-- Whatever is done in the name of a tenant is limited to it. -/
theorem ScopedStep.confined (h : ScopedStep tenant s s') : Confined tenant s s' := by
  cases h with
  | rule r hr =>
    refine Confined.call s rfl (fun r' hr' => ?_) (fun _ _ => rfl)
    obtain rfl : r = r' := Option.some.inj hr'
    exact hr
  | package package =>
    refine Confined.call s rfl (fun r hr => ?_) (fun scope hscope => ?_)
    · cases hr
    · exact if_neg (Ne.symm hscope)
  | @run _ _ _ _ entry config request w w' report htenant hfresh hrun =>
    obtain ⟨f, hflight, hresult⟩ := entry.run_eq config request w
    obtain ⟨-, rfl⟩ : report = _ ∧ w' = f.world := by simpa [hrun] using hresult
    obtain ⟨creation, steps, hsince⟩ := FlightWork.runAs_since hflight
    rw [← htenant]
    exact hsince.confined hfresh

/-- Whatever is done in the name of a tenant, one thing after the other, is confined to it. -/
theorem confined_of_steps (h : Relation.ReflTransGen (ScopedStep tenant) s s') :
    Confined tenant s s' := by
  induction h with
  | refl => exact .refl tenant s
  | tail _ hstep ih => exact ih.trans hstep.confined

end ArtifactPipeline
