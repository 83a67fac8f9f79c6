import ArtifactPipeline.Proofs.TandemRuns

/-!
# The worlds of two runs

Two runs of one request start in worlds that hold the same store and share their past. What a run
writes while it works on its session it does not read again, so what was written, and whether it
could be written, makes no difference to what the runs read. Their worlds stay in tandem.
-/

namespace ArtifactPipeline

variable {σ π α : Type}

/-- What the work on sessions reads in a store: all but the sessions, the logs, the audit trail and
the records for human review. -/
def MemoryStore.consulted (m : MemoryStore) : MemoryStore :=
  { m with sessions := [], logs := [], audit := [], reviews := [] }

/-- Whether the work on sessions calls a method to write down what it does not read. -/
def StoreMethod.isRecord : StoreMethod → Bool
  | .createSession | .updateSession | .appendLog | .appendAudit | .createReview => true
  | _ => false

namespace MemoryStore

/-- A read is answered from what is consulted, and leaves the store as it is. -/
theorem call_of_isRead (m : MemoryStore) {c : StoreCall} (hc : c.method.isRead = true) :
    m.call c = (m.consulted.call c).map fun p => (p.1, m) := by
  cases c with
  | listPatterns | getPattern | activeRules | allowlist =>
    cases hoffline : m.offline <;> simp [call, consulted, hoffline, answer, Except.map,
      resolvedAllowlist, tenantAllowlist]
  | _ => cases hc

/-- A record leaves what is consulted as it is. -/
theorem consulted_of_answer {m next : MemoryStore} {c : StoreCall} {answer : c.Answer}
    (hc : c.method.isRecord = true) (h : m.answer c = .ok (answer, next)) :
    next.consulted = m.consulted := by
  cases c with
  | appendLog | appendAudit | createReview =>
    cases h
    rfl
  | createSession | updateSession =>
    simp only [MemoryStore.answer] at h
    split at h
    all_goals
      cases h
      try rfl
  | _ => cases hc

/-- A read leaves the store as it is. -/
theorem eq_of_isRead {m next : MemoryStore} {c : StoreCall} {answer : c.Answer}
    (hc : c.method.isRead = true) (h : m.answer c = .ok (answer, next)) : next = m := by
  cases c with
  | listPatterns | getPattern | activeRules | allowlist =>
    cases h
    rfl
  | _ => cases hc

end MemoryStore

namespace World

/-- A call leaves everything but the store and the journal as it is, and a record also leaves what
is consulted. -/
theorem write_eq (w : World σ π) (c : StoreCall) :
    ∃ failure store, (w.write c).2 = { w with store, journal := w.journal ++ [.store c failure] } ∧
      (c.method.isRecord = true → store.consulted = w.store.consulted) := by
  cases hreply : w.reply c with
  | ok p =>
    obtain ⟨answer, store⟩ := p
    refine ⟨none, store, ?_, fun hc => MemoryStore.consulted_of_answer hc (answer_of_reply hreply)⟩
    simp [write, call, hreply]
  | error e =>
    refine ⟨some e, w.store, ?_, fun _ => rfl⟩
    simp [write, call, hreply]

/-- A record for human review is stored unless the store is out of order. -/
theorem write_createReview (w : World σ π) (record : ReviewRecord) :
    (w.write (.createReview record)).1 =
      (!w.faults .createReview (w.callCount .createReview) && !w.store.offline) := by
  cases hfault : w.faults .createReview (w.callCount .createReview) <;>
    cases hoffline : w.store.offline <;>
    simp [write, call, reply, StoreCall.method, MemoryStore.call, MemoryStore.answer, hfault,
      hoffline, Except.toBool]

/-- What two runs did after a common past is alike. -/
def Traced (k : Leeway) (past : List Effect) (w₁ w₂ : World σ π) : Prop :=
  ∃ effects₁ effects₂, w₁.journal = past ++ effects₁ ∧ w₂.journal = past ++ effects₂ ∧
    List.Forall₂ (Effect.Alike k) effects₁ effects₂

/-- Two worlds have the same to offer to the work on sessions, up to a leeway, and what was done in
them after a common past is alike. The publishers are related by `P`. -/
structure Tied (k : Leeway) (past : List Effect) (P : π → π → Prop) (w₁ w₂ : World σ π) :
    Prop where
  traced : w₁.Traced k past w₂
  consulted : w₂.store.consulted = w₁.store.consulted
  reads : ∀ method : StoreMethod, method.isRead = true → w₂.faults method = w₁.faults method
  faults : k.agree → w₂.faults = w₁.faults
  model : w₂.model = w₁.model
  regexes : w₂.regexes = w₁.regexes
  clock : k.exact → w₂.clock = w₁.clock ∧ w₂.readings = w₁.readings
  names : k.exact → w₂.ids = w₁.ids ∧ w₂.begun = w₁.begun
  publisher : P w₁.publisher w₂.publisher

end World

/-- Alike effects call the same method of the store, if any. -/
theorem Effect.Alike.isCallOf {k : Leeway} {e₁ e₂ : Effect} (h : e₁.Alike k e₂)
    (method : StoreMethod) : e₂.isCallOf method = e₁.isCallOf method := by
  cases h <;> rfl

/-- What was done alike has called each method equally often. -/
theorem Effect.countP_isCallOf_of_alike {k : Leeway} {effects₁ effects₂ : List Effect}
    (h : List.Forall₂ (Effect.Alike k) effects₁ effects₂) (method : StoreMethod) :
    effects₂.countP (isCallOf method) = effects₁.countP (isCallOf method) := by
  induction h with
  | nil => rfl
  | cons he _ ih => rw [List.countP_cons, List.countP_cons, ih, he.isCallOf]

namespace World

variable {k : Leeway} {past : List Effect} {P : π → π → Prop} {w₁ w₂ w₁' w₂' : World σ π}

/-- Two runs may each do one thing more if the two things are alike. -/
theorem Traced.snoc {e₁ e₂ : Effect} (h : w₁.Traced k past w₂) (he : e₁.Alike k e₂)
    (h₁ : w₁'.journal = w₁.journal ++ [e₁]) (h₂ : w₂'.journal = w₂.journal ++ [e₂]) :
    w₁'.Traced k past w₂' := by
  obtain ⟨effects₁, effects₂, hjournal₁, hjournal₂, halike⟩ := h
  refine ⟨effects₁ ++ [e₁], effects₂ ++ [e₂], ?_, ?_, List.rel_append halike (.cons he .nil)⟩
  · rw [h₁, hjournal₁, List.append_assoc]
  · rw [h₂, hjournal₂, List.append_assoc]

/-- A method of the store was called equally often in both worlds. -/
theorem Traced.callCount (h : w₁.Traced k past w₂) (method : StoreMethod) :
    w₂.callCount method = w₁.callCount method := by
  obtain ⟨effects₁, effects₂, hjournal₁, hjournal₂, halike⟩ := h
  rw [World.callCount, World.callCount, hjournal₁, hjournal₂, List.countP_append,
    List.countP_append, Effect.countP_isCallOf_of_alike halike]

/-- Calls of the store that are alike whether or not they fail keep the traces alike. -/
theorem Traced.write {c₁ c₂ : StoreCall} (h : w₁.Traced k past w₂)
    (hc : ∀ failure₁ failure₂, Effect.Alike k (.store c₁ failure₁) (.store c₂ failure₂)) :
    (w₁.write c₁).2.Traced k past (w₂.write c₂).2 := by
  obtain ⟨failure₁, store₁, h₁, -⟩ := w₁.write_eq c₁
  obtain ⟨failure₂, store₂, h₂, -⟩ := w₂.write_eq c₂
  rw [h₁, h₂]
  exact h.snoc (hc failure₁ failure₂) rfl rfl

namespace Tied

/-- What is written while the sessions are worked on is not read again. -/
theorem write {c₁ c₂ : StoreCall} (h : w₁.Tied k past P w₂) (hc₁ : c₁.method.isRecord = true)
    (hc₂ : c₂.method.isRecord = true)
    (hc : ∀ failure₁ failure₂, Effect.Alike k (.store c₁ failure₁) (.store c₂ failure₂)) :
    (w₁.write c₁).2.Tied k past P (w₂.write c₂).2 := by
  have htraced := h.traced.write hc
  obtain ⟨failure₁, store₁, h₁, hstore₁⟩ := w₁.write_eq c₁
  obtain ⟨failure₂, store₂, h₂, hstore₂⟩ := w₂.write_eq c₂
  rw [h₁, h₂] at htraced ⊢
  refine { h with traced := htraced, consulted := ?_ }
  exact (hstore₂ hc₂).trans (h.consulted.trans (hstore₁ hc₁).symm)

/-- Worlds stay tied when both clocks are read. -/
theorem now (h : w₁.Tied k past P w₂) : w₁.now.2.Tied k past P w₂.now.2 :=
  { h with clock := fun hexact => ⟨(h.clock hexact).1, congrArg (· + 1) (h.clock hexact).2⟩ }

/-- Clocks that agree show the same moment. -/
theorem moment (h : w₁.Tied k past P w₂) (hexact : k.exact) : w₂.now.1 = w₁.now.1 :=
  congrArg₂ (fun clock readings => clock readings) (h.clock hexact).1 (h.clock hexact).2

/-- A read that is in order in one world is in order in the other one, and is answered in the same
way. -/
theorem call (h : w₁.Tied k past P w₂) {c : StoreCall} (hc : c.method.isRead = true) :
    Matches (World.Tied k past P) (w₁.call c) (w₂.call c) := by
  -- Whether a read fails depends on its number, which is the same in both worlds.
  have hreply : w₂.reply c = (w₁.reply c).map fun p => (p.1, w₂.store) := by
    rw [reply, reply, h.reads _ hc, h.traced.callCount, MemoryStore.call_of_isRead _ hc,
      h.consulted, MemoryStore.call_of_isRead w₁.store hc]
    split
    · rfl
    · cases w₁.store.consulted.call c <;> rfl
  have hread (failure : Option StoreError) := Effect.Alike.read (k := k) c failure hc
  cases hfirst : w₁.reply c with
  | ok p =>
    obtain ⟨answer, store⟩ := p
    obtain rfl : store = w₁.store := MemoryStore.eq_of_isRead hc (answer_of_reply hfirst)
    have hsecond : w₂.reply c = .ok (answer, w₂.store) := by
      rw [hreply, hfirst]
      rfl
    simp only [World.call, hfirst, hsecond]
    exact .intro { h with traced := h.traced.snoc (hread none) rfl rfl }
  | error e =>
    have hsecond : w₂.reply c = .error e := by
      rw [hreply, hfirst]
      rfl
    simp only [World.call, hfirst, hsecond]
    exact .intro { h with traced := h.traced.snoc (hread (some e)) rfl rfl }

/-- The models of tied worlds give the same reply, and the worlds stay tied. -/
theorem invoke [ModelService σ] (h : w₁.Tied k past P w₂) (request : ModelRequest) :
    Matches (World.Tied k past P) (w₁.invoke request) (w₂.invoke request) := by
  simp only [World.invoke, h.model]
  exact .intro { h with traced := h.traced.snoc (.model request _) rfl rfl, model := rfl }

/-- A validation comes to the same verdict in tied worlds, which stay tied. -/
theorem evaluate (h : w₁.Tied k past P w₂) (code : String) (rules : List Rule)
    (allowlist : List String) :
    Matches (World.Tied k past P) (w₁.evaluate code rules allowlist)
      (w₂.evaluate code rules allowlist) := by
  simp only [World.evaluate, h.regexes]
  exact .intro { h with regexes := rfl }

/-- If the stores lose the same calls, a record for human review is stored in both or in neither. -/
theorem filed (h : w₁.Tied k past P w₂) (hagree : k.agree) (r₁ r₂ : ReviewRecord) :
    (w₂.write (.createReview r₂)).1 = (w₁.write (.createReview r₁)).1 := by
  have hoffline : w₂.store.offline = w₁.store.offline :=
    (congrArg MemoryStore.offline h.consulted :)
  rw [write_createReview, write_createReview, h.faults hagree, h.traced.callCount, hoffline]

/-- Tied worlds are in step: what one does the other may do too. -/
theorem pace (k : Leeway) (past : List Effect) (P : π → π → Prop) :
    Pace k (World.Tied (σ := σ) k past P) where
  now h := h.now
  moment h := h.moment
  log he h := h.write rfl rfl fun _ _ => .log _ _ he
  update hs h := h.write rfl rfl fun _ _ => .update _ _ hs

/-- Tied worlds are in tandem. -/
theorem tandem [ModelService σ] (k : Leeway) (past : List Effect) (P : π → π → Prop) :
    Tandem k (World.Tied (σ := σ) k past P) (Traced k past) where
  working := pace k past P
  finish h := h.traced
  freshId h := { h with names := fun hexact =>
    ⟨(h.names hexact).1, congrArg (· + 1) (h.names hexact).2⟩ }
  name h hexact :=
    congrArg₂ (fun ids begun => ids begun) (h.names hexact).1 (h.names hexact).2
  create hs h := h.write rfl rfl fun _ _ => .create _ _ hs
  read _ hc h := h.call hc
  invoke request h := h.invoke request
  evaluate code rules allowlist h := h.evaluate code rules allowlist
  audit he h := h.write rfl rfl fun _ _ => .audit _ _ he
  review hr h := h.write rfl rfl fun _ _ => .review _ _ hr
  filed _ h hagree := h.filed hagree _ _
  count id success h := h.write fun _ _ => .count id success _ _

end Tied

end World

/-- Two publishers serve two runs alike. -/
inductive Publisher.Alike [Publisher π] (k : Leeway) (p₁ p₂ : π) : Prop
  /-- Under the same names and at the same moments any publisher does what it does. -/
  | same : k.exact → p₂ = p₁ → Alike k p₁ p₂
  /-- The results for alike sessions that passed are alike. -/
  | similar : (∀ (s₁ s₂ : Session) (code : String), s₁.Alike k s₂ → s₁.status = .validating →
      s₁.artifactId = none → PublishedAlike (publish s₁ code p₁).1 (publish s₂ code p₂).1 ∧
        (k.exact → (publish s₂ code p₂).1 = (publish s₁ code p₁).1)) → Alike k p₁ p₂

/-- Publishers that serve alike publish alike sessions alike, and under the same name if names
are the same. -/
theorem Publisher.Alike.results [Publisher π] {k : Leeway} {p₁ p₂ : π}
    (h : Publisher.Alike k p₁ p₂) {s₁ s₂ : Session} (code : String) (hs : s₁.Alike k s₂)
    (hstatus : s₁.status = .validating) (hartifact : s₁.artifactId = none) :
    PublishedAlike (publish s₁ code p₁).1 (publish s₂ code p₂).1 ∧
      (k.exact → (publish s₂ code p₂).1 = (publish s₁ code p₁).1) := by
  cases h with
  | same hexact hsame =>
    have hsession : s₂ = s₁ := by
      obtain ⟨hid, hartifact', htimeline⟩ := hs.exact hexact
      rw [hs.same, hid, hartifact', htimeline, hstatus, k.status_eq (by decide), ← hstatus]
    rw [hsession, hsame]
    exact ⟨rfl, fun _ => rfl⟩
  | similar hresults => exact hresults s₁ s₂ code hs hstatus hartifact

/-- Publishers in memory look at no name and no moment. -/
theorem MemoryPublisher.alike {k : Leeway} {p₁ p₂ : MemoryPublisher}
    (hoffline : p₂.offline = p₁.offline) (hexact : k.exact → p₂ = p₁) :
    Publisher.Alike k p₁ p₂ := by
  have hresult (s : Session) (code : String) (p : MemoryPublisher) :
      (Publisher.publish s code p).1 =
        if p.offline then .error (.publish "memory publisher is offline")
        else .ok (p.names p.artifacts.length) := by
    simp only [Publisher.publish, publish]
    split <;> rfl
  refine .similar fun s₁ s₂ code _ _ _ => ?_
  rw [hresult, hresult]
  refine ⟨?_, fun he => by rw [hexact he]⟩
  rw [hoffline]
  split <;> rfl

/-- Tied worlds whose publishers come to alike results publish alike. -/
theorem Publisher.Alike.publishes [Publisher π] {k : Leeway} {past : List Effect} {p₁ p₂ : π}
    (h : Publisher.Alike k p₁ p₂) :
    PublishesAlike k (World.Tied (σ := σ) k past fun p q => p = p₁ ∧ q = p₂)
      (World.Tied k past fun _ _ => True) := by
  intro s₁ s₂ w₁ w₂ code hs hstatus hartifact htied
  obtain ⟨hresult, hexact⟩ := h.results code hs hstatus hartifact
  obtain ⟨rfl, rfl⟩ := htied.publisher
  refine ⟨hresult, hexact, ?_⟩
  exact { htied with
    traced := htied.traced.snoc (.publish code hs hresult hexact) rfl rfl
    publisher := trivial }

end ArtifactPipeline
