import ArtifactPipeline.Model.Script
import ArtifactPipeline.Proofs.Ledger
import ArtifactPipeline.Proofs.Streams

/-!
# What a session is charged

What the model charged for is added to the account of the session, and the plan of the session is
what the uses of patterns are counted by when it ends. From planning on, the account of the session
grows by exactly the charges in the journal. Planning itself loses a charge if the patterns cannot
be read after the request was classified.
-/

namespace ArtifactPipeline

open Json

variable {σ π α β : Type}

namespace Plan

/-- The references to a ranking of patterns are those to the first of them. -/
theorem map_toReferences (f : PatternReference → β) (g : PatternRecord → β)
    (h : ∀ p score, f ⟨p.id, score, p.name⟩ = g p) (patterns : List PatternRecord)
    (scores : List Float) :
    (toReferences patterns scores).map f = (patterns.take scores.length).map g := by
  induction patterns generalizing scores with
  | nil => simp [toReferences]
  | cons p patterns ih =>
    cases scores with
    | nil => simp [toReferences]
    | cons score scores => simpa [toReferences, h] using ih scores

/-- No pattern is referred to twice, however the patterns are ranked. -/
theorem toReferences_nodup {patterns ranking : List PatternRecord} (scores : List Float)
    (hnodup : (patterns.map (·.id)).Nodup) (hperm : ranking.Perm patterns) :
    ((toReferences ranking scores).map (·.id)).Nodup := by
  have hranking : (ranking.map (·.id)).Nodup := (hperm.map _).nodup_iff.mpr hnodup
  rw [map_toReferences (·.id) (·.id) fun _ _ => rfl]
  exact hranking.sublist ((List.take_sublist _ _).map _)

end Plan

/-- A call that succeeds leaves the patterns of the store alone, unless it counts a use. -/
theorem MemoryStore.patterns_of_answer {m next : MemoryStore} {c : StoreCall} {answer : c.Answer}
    (hc : c.method.isRoutine = true) (huse : (Effect.store c none).use? = none)
    (h : m.answer c = .ok (answer, next)) : next.patterns = m.patterns := by
  cases c with
  | createSession | updateSession =>
    simp only [MemoryStore.answer] at h
    split at h <;> cases h
    rfl
  | recordPatternUsage => cases huse
  | appendLog | listPatterns | getPattern | activeRules | allowlist | appendAudit
  | createReview => cases h; rfl
  | getSession | listSessions | sessionLogs | savePattern | upsertRule
  | addAllowedDependency => cases hc

/-- Only the counting of a use changes the patterns of a store, whatever else is replayed on it.
-/
theorem MemoryStore.replay_patterns_of_use {m : MemoryStore} {e : Effect}
    (he : e.isRoutine = true) (huse : e.use? = none) : (m.replay e).patterns = m.patterns := by
  match e, he with
  | .model .., _ | .publish .., _ | .store _ (some _), _ => rfl
  | .store call none, he =>
    simp only [replay]
    split
    · next h => exact patterns_of_answer he huse h
    · rfl

/-- As long as no use of a pattern is to be counted, the patterns stay as they are. -/
theorem World.Posts.patterns {l : Ledger} {w w' : World σ π} (h : w.Posts l w')
    (huses : l.uses = []) : w'.store.patterns = w.store.patterns := by
  obtain ⟨effects, hmoves, rfl⟩ := h
  have hroutine := hmoves.routine
  have hnone : ∀ e ∈ effects, e.use? = none := List.filterMap_eq_nil_iff.mp huses
  rw [hmoves.store]
  generalize w.store = m
  clear hmoves huses
  induction effects generalizing m with
  | nil => rfl
  | cons e effects ih =>
    rw [List.foldl_cons, ih (fun e' he' => hroutine e' (by simp [he']))
      (fun e' he' => hnone e' (by simp [he'])),
      MemoryStore.replay_patterns_of_use (hroutine e (by simp)) (hnone e (by simp))]

/-- How looking for similar patterns ends. -/
inductive SimilarFound (w : World σ π) :
    EStateM.Result Failure (World σ π) (List PatternReference) → Prop
  | found {references : List PatternReference} {w' : World σ π} : w.Posts {} w' →
    ((w.store.patterns.map (·.id)).Nodup → (references.map (·.id)).Nodup) →
    SimilarFound w (.ok references w')
  | unlisted {e : Failure} {w' : World σ π} (failure : StoreError) :
    w.Posts { unlisted := [failure] } w' → SimilarFound w (.error e w')

/-- The search for similar patterns gives a list and posts nothing, or posts why it could not
list them. -/
theorem findSimilar_found (intent : Intent) (w : World σ π) :
    SimilarFound w (findSimilar intent w) := by
  rw [findSimilar]
  rcases Work.store_cases (.listPatterns (some intent)) w rfl with
    ⟨same, next, w₁, hresult, hanswer, hmoves₁⟩ | ⟨e, w₁, hresult, hmoves₁⟩
  · cases hanswer
    rw [bind_ok _ hresult]
    split
    · rcases Work.store_cases (.listPatterns none) w₁ rfl with
        ⟨all, next, w₂, hresult, hanswer, hmoves₂⟩ | ⟨e, w₂, hresult, hmoves₂⟩
      · cases hanswer
        rw [bind_ok _ hresult]
        refine .found (hmoves₁.trans hmoves₂).posts fun hnodup => ?_
        have hkept : w₁.store.patterns = w.store.patterns := hmoves₁.posts.patterns rfl
        rw [← hkept] at hnodup
        exact Plan.toReferences_nodup _
          (hnodup.sublist (List.filter_sublist.map _)) (List.mergeSort_perm _ _)
      · rw [bind_error _ hresult]
        exact .unlisted e (hmoves₁.trans hmoves₂).posts
    · refine .found hmoves₁.posts fun hnodup => ?_
      exact Plan.toReferences_nodup _
        (hnodup.sublist (List.filter_sublist.map _)) (List.mergeSort_perm _ _)
  · rw [bind_error _ hresult]
    exact .unlisted e hmoves₁.posts

/-- How making a plan ends. -/
inductive PlanMade (w : World σ π) :
    EStateM.Result Failure (World σ π) PlanningOutcome → Prop
  | made {outcome : PlanningOutcome} {w' : World σ π} : w.Posts { spent := [outcome.usage] } w' →
    ((w.store.patterns.map (·.id)).Nodup →
      (outcome.plan.similarPatterns.map (·.id)).Nodup) → PlanMade w (.ok outcome w')
  /-- The model did not reply. -/
  | unclassified {e : Failure} {w' : World σ π} : w.Posts {} w' → PlanMade w (.error e w')
  /-- The model replied, but the patterns could not be read. -/
  | unlisted {e : Failure} {w' : World σ π} (usage : TokenUsage) (failure : StoreError) :
    w.Posts { spent := [usage], unlisted := [failure] } w' → PlanMade w (.error e w')

/-- A classification asks the model once; it has been paid for as soon as the reply is there,
also if the reply makes no sense. -/
theorem classify_charged [ModelService σ] (config : Config) (prompt : String) (w : World σ π) :
    ChargedOnce (·.usage) w (classify config prompt w) := by
  have hinvoke := invoke_charged (classificationRequest config prompt) w
  rw [classify]
  cases hresponse : Work.invoke (classificationRequest config prompt) w with
  | error e w₁ =>
    rw [hresponse] at hinvoke
    rw [bind_error _ hresponse]
    cases hinvoke with
    | broken hposts => exact .broken hposts
  | ok response w₁ =>
    rw [hresponse] at hinvoke
    rw [bind_ok _ hresponse]
    cases hinvoke with
    | done hposts => exact .done hposts

/-- A plan that is made carries the usage of its classification; one that is not made has lost
what the classification cost, if that was answered. -/
theorem makePlan_made [ModelService σ] (config : Config) (prompt : String) (mood : Mood)
    (w : World σ π) : PlanMade w (makePlan config prompt mood w) := by
  have hclassify := classify_charged config prompt w
  rw [makePlan]
  cases houtcome : classify config prompt w with
  | error e w₁ =>
    rw [houtcome] at hclassify
    rw [bind_error _ houtcome]
    cases hclassify with
    | broken hposts => exact .unclassified hposts
  | ok outcome w₁ =>
    rw [houtcome] at hclassify
    rw [bind_ok _ houtcome]
    cases hclassify with
    | done hposts =>
      have hkept : w₁.store.patterns = w.store.patterns := hposts.patterns rfl
      have hsimilar := findSimilar_found outcome.classification.intent w₁
      cases hresult : findSimilar outcome.classification.intent w₁ with
      | ok references w₂ =>
        rw [hresult] at hsimilar
        rw [bind_ok _ hresult]
        cases hsimilar with
        | found hquiet hnodup =>
          rw [hkept] at hnodup
          exact .made (hposts.then_quiet hquiet) hnodup
      | error e w₂ =>
        rw [hresult] at hsimilar
        rw [bind_error _ hresult]
        cases hsimilar with
        | unlisted failure hlost => exact .unlisted outcome.usage failure (hposts.trans hlost)

/-- The patterns that the plan of a session refers to. -/
def Session.references (s : Session) : List String :=
  ((s.plan.map (·.similarPatterns)).getD []).map (·.id)

/-- The uses that a session counts at its end: one of each pattern that it refers to, unless it
failed. -/
def Session.counts (s : Session) : List (String × Bool) :=
  match s.status with
  | .completed => s.references.map (·, true)
  | .rejected => s.references.map (·, false)
  | _ => []

/-- A session that has not ended counts no uses. -/
theorem Session.counts_of_open {s : Session} (h : s.status.isTerminal = false) : s.counts = [] := by
  unfold counts
  split
  · next hstatus => rw [hstatus] at h; cases h
  · next hstatus => rw [hstatus] at h; cases h
  · rfl

namespace Flight

/-- The work on a session takes a flight to another one; the effects make up a ledger, and the
account of the session grows by what the model charged. -/
structure Charges (l : Ledger) (f f' : Flight σ π) : Prop where
  world : f.world.Posts l f'.world
  usage : f'.session.usage = f.session.usage.add (.sum l.spent)
  plan : f'.session.plan = f.session.plan

/-- A flight that goes on as it is has posted nothing and is charged for nothing. -/
theorem Charges.refl (f : Flight σ π) : f.Charges {} f := ⟨.refl _, by simp, rfl⟩

/-- The ledgers of two pieces of work are put together, and so are the charges. -/
theorem Charges.trans {k l : Ledger} {f₁ f₂ f₃ : Flight σ π} (h₁ : f₁.Charges k f₂)
    (h₂ : f₂.Charges l f₃) : f₁.Charges (k ++ l) f₃ where
  world := h₁.world.trans h₂.world
  usage := by
    rw [h₂.usage, h₁.usage, TokenUsage.add_assoc, ← TokenUsage.sum_append]
    rfl
  plan := h₂.plan.trans h₁.plan

/-- Work on the world alone whose effects stand in no ledger. -/
theorem Charges.ofWorld {f : Flight σ π} {w : World σ π} (h : f.world.Posts {} w) :
    f.Charges {} { f with world := w } := ⟨h, by simp [session], rfl⟩

/-- A change of the session that leaves its account and its plan alone. -/
theorem Charges.ofSession {f : Flight σ π} {s : Session} (husage : s.usage = f.session.usage)
    (hplan : s.plan = f.session.plan) : f.Charges {} (f.withSession s) :=
  ⟨.refl _, by simpa using husage, hplan⟩

/-- An entry in the log costs nothing. -/
theorem log_charges (level : LogLevel) (message : String) (data : Value) (f : Flight σ π) :
    f.Charges {} (f.log level message data) :=
  ⟨f.world.now_posts.after_quiet (World.write_posts _ _ rfl fun _ => rfl), by simp, rfl⟩

/-- Storing the session costs nothing. -/
theorem persist_charges (f : Flight σ π) : f.Charges {} f.persist :=
  .ofWorld (f.world.write_posts _ rfl fun _ => rfl)

/-- Moving to another status costs nothing. -/
theorem moved_charges (next : Status) (message : String) (data : Value) (f : Flight σ π) :
    f.Charges {} (f.moved next message data) := by
  have htimed : f.Charges {} f.timed := .ofWorld f.world.now_posts
  have hentered : f.timed.Charges {} (f.timed.withSession { f.session with
      status := next, timeline := f.session.timeline.enter next f.world.now.1 }) :=
    .ofSession rfl rfl
  exact ((htimed.trans hentered).trans (log_charges .info message data _)).trans
    (persist_charges _)

/-- A failure costs nothing more than what was spent before it. -/
theorem failed_charges (failure : Failure) (f : Flight σ π) :
    f.Charges {} (f.failed failure) := by
  have htimed : f.Charges {} f.timed := .ofWorld f.world.now_posts
  have hentered : f.timed.Charges {} (f.timed.withSession { f.session with
      status := .failed
      timeline := f.session.timeline.enter .failed f.world.now.1
      error := some failure.message }) := .ofSession rfl rfl
  exact ((htimed.trans hentered).trans (log_charges .error _ _ _)).trans (persist_charges _)

/-- Each pattern that the plan refers to is counted once, in order. -/
theorem countPatterns_charges (success : Bool) (f : Flight σ π) :
    f.Charges { uses := f.session.references.map (·, success) } (f.countPatterns success) := by
  have hcount (references : List PatternReference) (w : World σ π) :
      w.Posts { uses := (references.map (·.id)).map (·, success) } (references.foldl
        (fun w reference => (w.write (.recordPatternUsage reference.id success)).2) w) := by
    induction references generalizing w with
    | nil => exact .refl w
    | cons reference references ih =>
      obtain ⟨failure, -, hmoves⟩ :=
        w.write_moves (.recordPatternUsage reference.id success) rfl
      exact hmoves.posts.trans (ih _)
  exact ⟨hcount _ _, by simp, rfl⟩

/-- The work on a session leaves its plan alone, charges it for what the model charged, and counts
uses if it ends it. -/
def Settles (f f' : Flight σ π) : Prop :=
  ∃ spent, f.Charges { spent, uses := f'.session.counts } f'

/-- Work that leaves the session open counts no uses. -/
theorem Charges.settles {spent : List TokenUsage} {f f' : Flight σ π} (h : f.Charges { spent } f')
    (hopen : f'.session.status.isTerminal = false) : f.Settles f' := by
  refine ⟨spent, ?_⟩
  rwa [Session.counts_of_open hopen]

/-- A session that is still open after the first part of its work is settled by the second part.
-/
theorem Settles.trans {f₁ f₂ f₃ : Flight σ π} (h₁ : f₁.Settles f₂)
    (hopen : f₂.session.status.isTerminal = false) (h₂ : f₂.Settles f₃) : f₁.Settles f₃ := by
  obtain ⟨xs, h₁⟩ := h₁
  obtain ⟨ys, h₂⟩ := h₂
  rw [Session.counts_of_open hopen] at h₁
  exact ⟨xs ++ ys, h₁.trans h₂⟩

/-- Work that only spends tokens may stand before work that settles the session. -/
theorem Charges.then_settles {spent : List TokenUsage} {f₁ f₂ f₃ : Flight σ π}
    (h₁ : f₁.Charges { spent } f₂) (h₂ : f₂.Settles f₃) : f₁.Settles f₃ := by
  obtain ⟨ys, h₂⟩ := h₂
  exact ⟨spent ++ ys, h₁.trans h₂⟩

end Flight

namespace FlightWork

/-- How planning charges a session. -/
inductive PlanCharges (f : Flight σ π) : EStateM.Result Failure (Flight σ π) Unit → Prop
  | planned {spent : List TokenUsage} {f' : Flight σ π} : f.world.Posts { spent } f'.world →
    f'.session.usage = f.session.usage.add (.sum spent) →
    f'.session.status.isTerminal = false →
    ((f.world.store.patterns.map (·.id)).Nodup → f'.session.references.Nodup) →
    PlanCharges f (.ok () f')
  /-- The model did not reply, or the session could not be planned. -/
  | unplanned {e : Failure} {f' : Flight σ π} : f.Charges {} f' →
    f'.session.status.isTerminal = false → PlanCharges f (.error e f')
  /-- The model replied, but the patterns could not be read. -/
  | lost {e : Failure} {f' : Flight σ π} (usage : TokenUsage) (failure : StoreError) :
    f.world.Posts { spent := [usage], unlisted := [failure] } f'.world →
    f'.session.usage = f.session.usage → f'.session.plan = f.session.plan →
    f'.session.status.isTerminal = false → PlanCharges f (.error e f')

/-- A planning that fails after the reply to its classification is the only work of a session
that does not charge what it spent. -/
theorem plan_charges [ModelService σ] (config : Config) {f : Flight σ π}
    (hstatus : f.session.status = .pending) : PlanCharges f (plan config f) := by
  have hadvance := advance_eq (f := f) .planning "Classifying request" .null (by rw [hstatus]; rfl)
  have hmoved := Flight.moved_charges .planning "Classifying request" .null f
  have hopen : (f.moved .planning "Classifying request" .null).session.status.isTerminal = false :=
    rfl
  have hkept : (f.moved .planning "Classifying request" .null).world.store.patterns =
      f.world.store.patterns := hmoved.world.patterns rfl
  rw [plan, bind_ok _ hadvance, get_bind]
  generalize f.moved .planning "Classifying request" .null = f₁ at hmoved hopen hkept
  have hmake := makePlan_made config f₁.session.prompt f₁.session.mood f₁.world
  cases hresult : makePlan config f₁.session.prompt f₁.session.mood f₁.world with
  | error e w =>
    rw [hresult] at hmake
    rw [bind_error _ (onWorld_error hresult)]
    cases hmake with
    | unclassified hposts => exact .unplanned (hmoved.trans (.ofWorld hposts)) hopen
    | unlisted usage failure hposts =>
      have husage : f₁.session.usage = f.session.usage := by simpa using hmoved.usage
      exact .lost usage failure (hmoved.world.after_quiet hposts) husage hmoved.plan hopen
  | ok outcome w =>
    rw [hresult] at hmake
    rw [bind_ok _ (onWorld_ok hresult)]
    cases hmake with
    | made hposts hnodup =>
      let charged : Flight σ π := Flight.withSession { f₁ with world := w } { f₁.session with
        usage := f₁.session.usage.add outcome.usage, cost := f₁.session.cost + outcome.cost }
      rw [step_bind _ (Session.modify_eq _ (by exact hopen)), modify_bind]
      have hlog := Flight.log_charges .info "Plan ready" (.obj [
        ("intent", outcome.plan.intent.toJson),
        ("complexity", outcome.plan.complexity.toJson),
        ("tier", outcome.plan.tier.toJson),
        ("model", .str outcome.plan.modelId),
        ("estimated_tokens", .nat outcome.plan.estimatedTokens),
        ("similar_patterns", .nat outcome.plan.similarPatterns.length)]) charged
      have hworld := (hmoved.world.after_quiet hposts).then_quiet hlog.world
      refine .planned hworld ?_ hopen ?_
      · have husage : f₁.session.usage = f.session.usage := by simpa using hmoved.usage
        rw [TokenUsage.sum_singleton, ← husage]
        rfl
      · intro hpatterns
        rw [← hkept] at hpatterns
        exact hnodup hpatterns

/-- Code that is accepted is charged with the usage of the reply that it came from; the session
stays where it is. -/
theorem accept_charges (generated : Generated) {f g : Flight σ π}
    (hworld : f.world.Posts { spent := [generated.usage] } g.world)
    (hsession : g.session = f.session) (hopen : f.session.status.isTerminal = false) :
    ∃ f', accept generated g = .ok () f' ∧ f.Charges { spent := [generated.usage] } f' ∧
      f'.session.status = f.session.status := by
  have hopen' : g.session.status.isTerminal = false := by rwa [hsession]
  rw [accept, step_bind _ (Session.modify_eq _ hopen'),
    step_bind _ (Session.modify_eq _ (by exact hopen'))]
  let accepted : Flight σ π := g.withSession { g.session with
    usage := g.session.usage.add generated.usage
    cost := g.session.cost + generated.cost
    code := some generated.code }
  have haccepted : f.Charges { spent := [generated.usage] } accepted := by
    refine ⟨hworld, ?_, (congrArg Session.plan hsession :)⟩
    rw [TokenUsage.sum_singleton, ← hsession]
    rfl
  refine ⟨_, rfl, haccepted.trans (Flight.log_charges .info _ _ accepted), ?_⟩
  rw [← hsession]
  rfl

/-- A generation charges what the model asked for it, and leaves the session open, whether it
gave code or not. -/
theorem produce_settles [ModelService σ] (config : Config) (prompt : String) {phase : Status}
    (message : String) {f : Flight σ π} (hphase : f.session.status.canMoveTo phase = true)
    (hopen : phase.isTerminal = false) (hbefore : f.session.status.isTerminal = false) :
    f.Settles (endState (produce config prompt phase message f)) ∧
      (endState (produce config prompt phase message f)).session.status.isTerminal = false := by
  rw [produce]
  cases hplan : f.session.plan with
  | none =>
    have hcurrent : currentPlan f = .error (.unplanned f.session.id) f := by
      simp [currentPlan, hplan]
    rw [bind_error _ hcurrent]
    exact ⟨(Flight.Charges.refl f).settles hbefore, hbefore⟩
  | some plan =>
    have hcurrent : currentPlan f = .ok plan f := by simp [currentPlan, hplan]
    have hadvance := advance_eq phase message (.obj [("model", .str plan.modelId)]) hphase
    have hmoved := Flight.moved_charges phase message (.obj [("model", .str plan.modelId)]) f
    have hstatus : (f.moved phase message (.obj [("model", .str plan.modelId)])).session.status =
      phase := rfl
    rw [bind_ok _ hcurrent, bind_ok _ hadvance, get_bind]
    generalize f.moved phase message (.obj [("model", .str plan.modelId)]) = f₁ at hmoved hstatus
    have hopen₁ : f₁.session.status.isTerminal = false := by rwa [hstatus]
    have hgenerate := generate_charged config f₁.session.tenant plan prompt f₁.world
    cases hresult : generate config f₁.session.tenant plan prompt f₁.world with
    | error e w =>
      rw [hresult] at hgenerate
      rw [bind_error _ (onWorld_error hresult)]
      cases hgenerate with
      | broken hposts =>
        exact ⟨(hmoved.trans (.ofWorld hposts)).settles hopen₁, hopen₁⟩
    | ok generated w =>
      rw [hresult] at hgenerate
      rw [bind_ok _ (onWorld_ok hresult)]
      cases hgenerate with
      | done hposts =>
        obtain ⟨f₂, haccept, hcharges, hstatus₂⟩ :=
          accept_charges generated (f := f₁) (g := { f₁ with world := w }) hposts rfl hopen₁
        have hopen₂ : f₂.session.status.isTerminal = false := by rwa [hstatus₂]
        rw [bind_ok _ haccept]
        exact ⟨(hmoved.trans hcharges).settles hopen₂, hopen₂⟩

/-- A session that moves to an end counts the uses that go with that end. -/
theorem end_settles {f : Flight σ π} {next : Status} {success : Bool} (message : String)
    (data : Value) (hedge : f.session.status.canMoveTo next = true)
    (hnext : next = .completed ∧ success = true ∨ next = .rejected ∧ success = false) :
    ∃ f', (do advance next message data; modify (Flight.countPatterns success) :
      FlightWork σ π Unit) f = .ok () f' ∧ f.Settles f' := by
  rw [bind_ok _ (advance_eq next message data hedge)]
  refine ⟨_, rfl, [], ?_⟩
  have hcounted := (Flight.moved_charges next message data f).trans
    (Flight.countPatterns_charges success (f.moved next message data))
  rcases hnext with ⟨rfl, rfl⟩ | ⟨rfl, rfl⟩
  · exact hcounted
  · exact hcounted

/-- A rejection succeeds and counts the uses of the patterns as failures. -/
theorem reject_settles (message : String) (data : Value) {f : Flight σ π}
    (hedge : f.session.status.canMoveTo .rejected = true) :
    ∃ f', reject message data f = .ok () f' ∧ f.Settles f' :=
  end_settles message data hedge (Or.inr ⟨rfl, rfl⟩)

/-- A session whose code was found valid is completed, published or not, and the uses of its
patterns count as successes. -/
theorem complete_settles [Publisher π] (code : String) {f : Flight σ π}
    (hstatus : f.session.status = .validating) :
    ∃ f', complete code f = .ok () f' ∧ f.Settles f' := by
  have hrest (f₁ : Flight σ π) (hcharges : f.Charges {} f₁)
      (hstatus₁ : f₁.session.status = .validating) :
      ∃ f', (do
          advance .completed "Component accepted"
            (.obj [("artifact_id", .text? f₁.session.artifactId)])
          modify (Flight.countPatterns true) : FlightWork σ π Unit) f₁ = .ok () f' ∧
        f.Settles f' := by
    obtain ⟨f', hend, hsettles⟩ := end_settles (f := f₁) "Component accepted"
      (.obj [("artifact_id", .text? f₁.session.artifactId)]) (by rw [hstatus₁]; rfl)
      (Or.inl ⟨rfl, rfl⟩)
    exact ⟨f', hend, hcharges.then_settles hsettles⟩
  have hpublish : f.world.Posts {} (f.world.publish f.session code).2 :=
    (f.world.publish_within f.session code fun _ => rfl).posts
  rw [complete, modify_bind, get_bind]
  rcases hresult : f.world.publish f.session code with ⟨e | name, w⟩
  · rw [hresult] at hpublish
    exact hrest _ ((Flight.Charges.ofWorld hpublish).trans (Flight.log_charges _ _ _ _)) hstatus
  · rw [hresult] at hpublish
    let named : Flight σ π :=
      Flight.withSession { f with world := w } { f.session with artifactId := some name }
    have hnamed : f.Charges {} named := ⟨hpublish, by simp [named], rfl⟩
    exact hrest named hnamed hstatus

/-- A session that is out of attempts is rejected, and with that its uses are counted. -/
theorem giveUp_settles (verdict : Verdict) {f : Flight σ π}
    (hstatus : f.session.status = .validating) :
    ∃ f', giveUp verdict f = .ok () f' ∧ f.Settles f' := by
  have hedge : f.session.status.canMoveTo .rejected = true := by rw [hstatus]; rfl
  have hescalate : f.world.Posts {} (escalate f.session verdict f.world).2 :=
    (escalate_within f.session verdict f.world fun _ _ => rfl).posts
  obtain ⟨f', hreject, hsettles⟩ := reject_settles
    (f := { f with world := (escalate f.session verdict f.world).2 })
    "Repair budget exhausted, escalated to human review"
    (.obj [("attempts", .nat f.session.attempts),
      ("escalated", .bool (escalate f.session verdict f.world).1)])
    hedge
  refine ⟨f', ?_, (Flight.Charges.ofWorld hescalate).then_settles hsettles⟩
  rw [giveUp, get_bind]
  exact hreject

/-- What follows from the outcome of a repair begins with the charge for it. -/
theorem followUp_settles (code : String) (errors : List String) (attempt : Nat)
    {outcome : RepairOutcome} {spent : List TokenUsage} {f g : Flight σ π}
    (hworld : f.world.Posts { spent } g.world) (hspent : .sum spent = outcome.usage)
    (husage : g.session.usage = f.session.usage) (hplan : g.session.plan = f.session.plan)
    (hstatus : g.session.status = .reflexion) :
    f.Settles (endState (followUp code errors attempt outcome g)) := by
  have hopen : g.session.status.isTerminal = false := by rw [hstatus]; rfl
  let charged : Flight σ π := g.withSession { g.session with
    usage := g.session.usage.add outcome.usage, cost := g.session.cost + outcome.cost }
  have hcharged : f.Charges { spent } charged := by
    refine ⟨hworld, ?_, hplan⟩
    rw [hspent, ← husage]
    rfl
  rw [followUp, step_bind _ (Session.modify_eq _ hopen)]
  cases hsuccess : outcome.success with
  | true =>
    rw [if_pos rfl, modify_bind, step_bind _ (Session.modify_eq _ (by exact hopen)), modify_bind]
    let repaired : Flight σ π := Flight.withSession
      { charged with run := { charged.run with previous := g.run.previous ++ [⟨code, errors⟩] } }
      { charged.session with code := some outcome.code }
    have hrepaired : f.Charges { spent } repaired := ⟨hcharged.world, hcharged.usage, hplan⟩
    exact (hrepaired.trans (Flight.log_charges .info _ _ repaired)).settles hopen
  | false =>
    rw [if_neg (by decide)]
    obtain ⟨f', hreject, hsettles⟩ := reject_settles (f := charged) "Repair failed"
      (.obj [("attempt", .nat attempt), ("reason", .str outcome.explanation)])
      (by rw [show charged.session.status = .reflexion from hstatus]; rfl)
    rw [bind_ok _ hreject]
    exact hcharged.then_settles hsettles

/-- A repair charges what the model asked for it, and settles the session if that was the end of
it. -/
theorem repair_settles [ModelService σ] (config : Config) (code : String) (errors : List String)
    {f : Flight σ π} (hstatus : f.session.status = .validating) :
    f.Settles (endState (repair config code errors f)) := by
  let data : Value := .obj [
    ("attempt", .nat (f.session.attempts + 1)), ("max_attempts", .nat f.session.maxAttempts)]
  have hadvance := advance_eq (f := f) .reflexion "Repairing component" data (by rw [hstatus]; rfl)
  have hmoved := Flight.moved_charges .reflexion "Repairing component" data f
  have hstatus₁ : (f.moved .reflexion "Repairing component" data).session.status = .reflexion := rfl
  rw [repair_eq, get_bind, bind_ok _ hadvance, get_bind]
  generalize f.moved .reflexion "Repairing component" data = f₁ at hmoved hstatus₁
  let task : RepairTask := {
    code
    errors
    attempt := f.session.attempts + 1
    maxAttempts := f.session.maxAttempts
    previous := f₁.run.previous }
  obtain ⟨spent, hposts, hspent, attempts, hsession⟩ :=
    attemptRepair_charged config task f₁.session f₁.world
  rcases hasked : attemptRepair config task f₁.session f₁.world with ⟨⟨outcome, s⟩, w⟩
  rw [hasked] at hposts hspent hsession
  obtain rfl : s = { f₁.session with attempts } := hsession
  let asked : Flight σ π := { f₁ with world := w }
  rw [modifyGet_bind outcome (asked.withSession { f₁.session with attempts }) _
    (by simp only [task] at hasked; simp only [hasked, asked])]
  exact hmoved.then_settles (followUp_settles code errors _ hposts hspent rfl rfl hstatus₁)

/-- Whatever a verdict leads to charges and counts what has to be charged and counted. -/
theorem conclude_settles [ModelService σ] [Publisher π] (config : Config) (code : String)
    (verdict : Verdict) {f : Flight σ π} (hstatus : f.session.status = .validating) :
    f.Settles (endState (conclude config code verdict f)) := by
  have hopen : f.session.status.isTerminal = false := by rw [hstatus]; rfl
  let judged : Flight σ π := f.withSession { f.session with verdict := some verdict }
  have hjudged : f.Charges {} judged := .ofSession rfl rfl
  rw [conclude, step_bind _ (Session.modify_eq _ hopen)]
  split
  · have hlogged := hjudged.trans
      (Flight.log_charges .info "Validation passed" (verdictData verdict) judged)
    obtain ⟨f', hcomplete, hsettles⟩ := complete_settles code
      (f := judged.log .info "Validation passed" (verdictData verdict)) hstatus
    rw [modify_bind, bind_ok _ hcomplete]
    exact hlogged.then_settles hsettles
  · have hlogged := hjudged.trans
      (Flight.log_charges .warn "Validation failed" (verdictData verdict) judged)
    rw [modify_bind, get_bind]
    split
    · obtain ⟨f', hgiveUp, hsettles⟩ := giveUp_settles verdict
        (f := judged.log .warn "Validation failed" (verdictData verdict)) hstatus
      rw [bind_ok _ hgiveUp]
      exact hlogged.then_settles hsettles
    · exact hlogged.then_settles (repair_settles config code _ hstatus)

/-- A round charges the session for what the model charged, and counts uses if it ends it. -/
theorem round_settles [ModelService σ] [Publisher π] (config : Config) {f : Flight σ π}
    (hedge : f.session.status.canMoveTo .validating = true) :
    f.Settles (endState (round config f)) := by
  let data : Value := .obj [("attempt", .nat f.session.attempts)]
  have hmoved := Flight.moved_charges .validating "Validating component" data f
  have hstatus : (f.moved .validating "Validating component" data).session.status = .validating :=
    rfl
  rw [round_eq, get_bind, bind_ok _ (advance_eq _ _ _ hedge), get_bind]
  generalize f.moved .validating "Validating component" data = f₁ at hmoved hstatus
  have hvalidate : f₁.world.Within Effect.isOffLedger
      (endState (validate f₁.code (some f₁.session.id) f₁.session.tenant f₁.world)) :=
    Work.validate_within _ _ _ (fun _ => rfl) (fun _ => rfl) (fun _ _ => rfl) f₁.world
  cases hresult : validate f₁.code (some f₁.session.id) f₁.session.tenant f₁.world with
  | error e w =>
    rw [hresult] at hvalidate
    rw [bind_error _ (onWorld_error hresult)]
    refine (hmoved.trans (.ofWorld hvalidate.posts)).settles ?_
    show f₁.session.status.isTerminal = false
    rw [hstatus]
    rfl
  | ok verdict w =>
    rw [hresult] at hvalidate
    rw [bind_ok _ (onWorld_ok hresult)]
    exact (hmoved.trans (.ofWorld hvalidate.posts)).then_settles
      (conclude_settles config _ verdict hstatus)

/-- After a round that asks for another one, or that breaks off, the session is open. -/
theorem RoundEnds.open_of_not_finished {f : Flight σ π}
    {result : EStateM.Result Failure (Flight σ π) Round} (h : RoundEnds f result)
    (hresult : ∀ f', result ≠ .ok .finished f') :
    (endState result).session.status = .validating ∨
      (endState result).session.status = .reflexion := by
  cases h with
  | broken _ _ _ _ hcore => exact Or.inl (congrArg Session.status hcore)
  | repaired _ _ _ _ _ _ hcore => exact Or.inr (congrArg Session.status hcore)
  | completed | exhausted | unrepaired => exact absurd rfl (hresult _)

/-- Rounds of validation charge the session for what the model charged. They count uses if they end
it, and leave it open if they break off. -/
theorem settle_settles [ModelService σ] [Publisher π] (config : Config) (rounds : Nat)
    {f : Flight σ π} (hedge : f.session.status.canMoveTo .validating = true) :
    f.Settles (endState (settle config rounds f)) ∧ ∀ e f', settle config rounds f = .error e f' →
      f'.session.status.isTerminal = false := by
  induction rounds generalizing f with
  | zero =>
    have hopen : f.session.status.isTerminal = false := Status.isTerminal_of_canMoveTo hedge
    exact ⟨(Flight.Charges.refl f).settles hopen, fun e f' h => by cases h⟩
  | succ rounds ih =>
    have hround := round_settles config hedge
    have hends := round_ends config hedge
    rw [settle]
    cases hresult : round config f with
    | error e f' =>
      rw [hresult] at hround hends
      rw [bind_error _ hresult]
      refine ⟨hround, fun e' f'' h => ?_⟩
      cases h
      rcases hends.open_of_not_finished (by simp) with hstatus | hstatus <;>
        exact hstatus ▸ rfl
    | ok next f' =>
      rw [hresult] at hround hends
      rw [bind_ok _ hresult]
      cases next with
      | finished => exact ⟨hround, fun e f'' h => by cases h⟩
      | again =>
        have hstatus := hends.open_of_not_finished (by simp)
        have hedge' : f'.session.status.canMoveTo .validating = true := by
          cases hends with
          | repaired _ _ _ _ _ _ hcore =>
            rw [show f'.session.status = .reflexion from congrArg Session.status hcore]
            rfl
        have hopen' : f'.session.status.isTerminal = false := by
          rcases hstatus with hstatus | hstatus <;> exact hstatus ▸ rfl
        obtain ⟨hrest, herror⟩ := ih hedge'
        exact ⟨hround.trans hopen' hrest, herror⟩

end FlightWork

/-- What a run charged its session. -/
inductive RunCharges (w : World σ π) (f : Flight σ π) : Prop
  | kept {spent : List TokenUsage} : w.Posts { spent, uses := f.session.counts } f.world →
    f.session.usage = .sum spent →
    ((w.store.patterns.map (·.id)).Nodup → f.session.references.Nodup) → RunCharges w f
  /-- The session failed because the patterns could not be read, and has no plan. -/
  | lost (usage : TokenUsage) (failure : StoreError) :
    w.Posts { spent := [usage], unlisted := [failure] } f.world → f.session.usage = {} →
    f.session.plan = none → f.session.status = .failed → RunCharges w f

/-- The beginning of a session posts nothing. -/
theorem Flight.start_posts (config : Config) (request : ComponentRequest) (w : World σ π) :
    w.Posts {} (Flight.start config request w).world := by
  let timed := w.freshId.2.now.2
  let session := Session.new w.freshId.1 request config.pipeline.maxAttempts w.freshId.2.now.1
  let opened : Flight σ π :=
    { run := { session }, world := (timed.write (.createSession session)).2 }
  have hbegun : w.Posts {} timed := (w.freshId_moves.trans w.freshId.2.now_moves).posts
  have hcreated : w.Posts {} opened.world :=
    hbegun.after_quiet (timed.write_posts (.createSession session) rfl fun _ => rfl)
  have hlogged := Flight.log_charges .info "Session created" (.obj [
    ("mood", request.mood.toJson),
    ("max_reflexion_attempts", .nat config.pipeline.maxAttempts)]) opened
  exact hcreated.after_quiet hlogged.world

/-- A failure after planning leaves what was charged until then. -/
theorem RunCharges.of_settles {w : World σ π} {spent : List TokenUsage} {f f' : Flight σ π}
    (hposts : w.Posts { spent } f.world) (husage : f.session.usage = .sum spent)
    (hnodup : (w.store.patterns.map (·.id)).Nodup → f.session.references.Nodup)
    (h : f.Settles f') : RunCharges w f' := by
  obtain ⟨later, hcharges⟩ := h
  refine .kept (hposts.trans hcharges.world) ?_ ?_
  · rw [hcharges.usage, husage, ← TokenUsage.sum_append]
  · rwa [Session.references, hcharges.plan]

namespace FlightWork

/-- A session that fails counts no uses. -/
theorem fail_settles {e : Failure} {f f' : Flight σ π} (hfail : fail e f = .ok () f')
    (hopen : f.session.status.isTerminal = false) : f.Settles f' := by
  rw [fail_eq e hopen] at hfail
  cases hfail
  exact ⟨[], f.failed_charges e⟩

/-- A run charges its session for every reply of the model, unless the patterns could not be
read. -/
theorem runAs_charges [ModelService σ] [Publisher π] {entry : Entry} {config : Config}
    {request : ComponentRequest} {w : World σ π} {f : Flight σ π}
    (hrun : runAs entry config request (Flight.start config request w) = .ok () f) :
    RunCharges w f := by
  have hstart := Flight.start_posts config request w
  have hkept : (Flight.start config request w).world.store.patterns = w.store.patterns :=
    hstart.patterns rfl
  have hempty : (Flight.start config request w).session.usage = {} := rfl
  have hunplanned : (Flight.start config request w).session.plan = none := rfl
  have hplans := plan_charges config (f := Flight.start config request w) rfl
  rcases plan_outcome config request w with ⟨f₁, hplan, hplanned⟩ | ⟨e, f₁, hplan, -⟩
  · rw [hplan] at hplans
    cases hplans with
    | @planned spent _ hposts husage hopen hnodup =>
      have hposts₁ := hstart.after_quiet hposts
      rw [hempty, TokenUsage.empty_add] at husage
      rw [hkept] at hnodup
      have hphase : f₁.session.status.canMoveTo entry.phase = true := by
        rw [hplanned.status]
        exact entry.canMoveTo_phase
      obtain ⟨hsettles, hopen₂⟩ := produce_settles config request.prompt entry.announcement hphase
        entry.phase_isTerminal hopen
      rcases produce_outcome request.prompt entry.announcement hplanned entry.phase_eq
        (by cases entry <;> decide) with
        ⟨generated, f₂, hproduce, hunderway⟩ | ⟨e, f₂, hproduce, -⟩
      · rw [hproduce] at hsettles hopen₂
        rw [runAs_produced entry hplan hproduce] at hrun
        obtain ⟨hloop, hbroken⟩ := settle_settles config
          (f₂.session.maxAttempts - f₂.session.attempts + 1) hunderway.edge
        have hrest := hsettles.trans hopen₂ hloop
        cases hsettle : settle config (f₂.session.maxAttempts - f₂.session.attempts + 1) f₂ with
        | ok _ f₃ =>
          rw [orFail_ok hsettle] at hrun
          cases hrun
          rw [hsettle] at hrest
          exact .of_settles hposts₁ husage hnodup hrest
        | error e f₃ =>
          rw [orFail_error hsettle] at hrun
          rw [hsettle] at hrest
          have hopen₃ := hbroken e f₃ hsettle
          exact .of_settles hposts₁ husage hnodup (hrest.trans hopen₃ (fail_settles hrun hopen₃))
      · rw [hproduce] at hsettles hopen₂
        rw [runAs_unproduced entry hplan hproduce] at hrun
        exact .of_settles hposts₁ husage hnodup
          (hsettles.trans hopen₂ (fail_settles hrun hopen₂))
  · rw [hplan] at hplans
    rw [runAs_unplanned entry hplan] at hrun
    cases hplans with
    | unplanned hcharges hopen =>
      have hnone : f₁.session.references = [] := by
        rw [Session.references, hcharges.plan, hunplanned]
        rfl
      have husage : f₁.session.usage = .sum [] := by simpa [hempty] using hcharges.usage
      refine .of_settles (hstart.after_quiet hcharges.world) husage (fun _ => ?_)
        (fail_settles hrun hopen)
      rw [hnone]
      exact List.nodup_nil
    | lost usage failure hposts husage hplan hopen =>
      rw [fail_eq e hopen] at hrun
      cases hrun
      have hfailed := f₁.failed_charges e
      refine .lost usage failure ((hstart.after_quiet hposts).then_quiet hfailed.world) ?_ ?_ rfl
      · rw [hfailed.usage, husage]
        rfl
      · rw [hfailed.plan, hplan, hunplanned]

end FlightWork

/-- No listing of patterns stands in the ledger if no such call of the store failed. -/
theorem ledger_unlisted_eq_nil {effects : List Effect} :
    (ledger effects).unlisted = [] ↔
      ∀ intent failure, Effect.store (.listPatterns intent) (some failure) ∉ effects := by
  simp only [ledger, List.filterMap_eq_nil_iff]
  constructor
  · intro h intent failure he
    cases h _ he
  · intro h e he
    cases e with
    | model | publish => rfl
    | store call failure =>
      cases call with
      | listPatterns intent =>
        cases failure with
        | none => rfl
        | some failure => exact absurd he (h intent failure)
      | _ => rfl

/-- A run charges its session for every reply of the model, those without code and those of a run
that ends rejected or failed among them. There is one exception: if the patterns cannot be read, the
session fails right after its classification and that reply, the only one of the run, is not
charged. -/
theorem Entry.run_charges [ModelService σ] [Publisher π] (entry : Entry) (config : Config)
    (request : ComponentRequest) (w : World σ π) :
    ∃ report w' effects, entry.run config request w = some (report, w') ∧
      w'.journal = w.journal ++ effects ∧
      let replies := effects.filterMap Effect.spent?
      ((∀ intent failure, Effect.store (.listPatterns intent) (some failure) ∉ effects) →
        report.session.usage = .sum replies) ∧
      ((∃ intent failure, Effect.store (.listPatterns intent) (some failure) ∈ effects) →
        report.session.status = .failed ∧ report.session.usage = {} ∧
          ∃ usage, replies = [usage]) := by
  obtain ⟨f, hrun, hresult⟩ := entry.run_eq config request w
  cases FlightWork.runAs_charges hrun with
  | kept hposts husage =>
    obtain ⟨effects, hmoves, hledger⟩ := hposts
    have hunlisted := ledger_unlisted_eq_nil.mp (congrArg Ledger.unlisted hledger)
    refine ⟨_, _, effects, hresult, hmoves.journal, fun _ => ?_, ?_⟩
    · rw [husage]
      exact congrArg (fun l : Ledger => TokenUsage.sum l.spent) hledger.symm
    · rintro ⟨intent, failure, he⟩
      exact absurd he (hunlisted intent failure)
  | lost usage failure hposts husage _ hstatus =>
    obtain ⟨effects, hmoves, hledger⟩ := hposts
    refine ⟨_, _, effects, hresult, hmoves.journal, fun hnone => ?_, fun _ => ?_⟩
    · have hlisted := (congrArg Ledger.unlisted hledger).symm.trans
        (ledger_unlisted_eq_nil.mpr hnone)
      cases hlisted
    · exact ⟨hstatus, husage, usage, congrArg Ledger.spent hledger⟩

/-- A reply to the classification of a request is not charged if the store cannot list the patterns
after that. -/
theorem Entry.run_loses_charge :
    let request : ComponentRequest := { tenant := "acme", user := "ann", prompt := "A button" }
    let w : World ScriptedModel MemoryPublisher := {
      store := {}
      faults := fun method _ => method = .listPatterns
      model := { default := some "utility" }
      publisher := { names := fun _ => "artifact" }
      regexes := { limit := 1048576 }
      journal := []
      clock := fun reading => ⟨reading, 0⟩
      readings := 0
      ids := fun number => ⟨number⟩
      begun := 0 }
    ∀ entry : Entry, ∃ report w', entry.run {} request w = some (report, w') ∧
      report.session.usage.output = 0 ∧
      (TokenUsage.sum (w'.journal.filterMap Effect.spent?)).output = 1 := by
  intro request w entry
  have hrun : (entry.run {} request w).map (fun run => (run.1.session.usage.output,
      (TokenUsage.sum (run.2.journal.filterMap Effect.spent?)).output)) = some (0, 1) := by
    cases entry <;> decide +kernel
  obtain ⟨⟨report, w'⟩, hresult, hcharges⟩ := Option.map_eq_some_iff.mp hrun
  obtain ⟨hsession, hreplies⟩ := Prod.mk.inj hcharges
  exact ⟨report, w', hresult, hsession, hreplies⟩

end ArtifactPipeline
