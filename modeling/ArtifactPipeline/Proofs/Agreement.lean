import ArtifactPipeline.Model.Script
import ArtifactPipeline.Proofs.Counterparts
import ArtifactPipeline.Proofs.Streams

/-!
# Both ways of working agree

Whoever works on a request until its session has ended, in one piece or as a stream, asks the same
of the store, the model and the publisher in the same order. The sessions and their logs are the
same in the end, but for names, moments and the phase in which the component is generated.
-/

namespace ArtifactPipeline

variable {σ π : Type}

/-- Two worlds are the same to begin with, up to what two runs in them may differ in. -/
structure World.Akin (k : Leeway) (w₁ w₂ : World σ π) : Prop where
  store : w₂.store = w₁.store
  model : w₂.model = w₁.model
  regexes : w₂.regexes = w₁.regexes
  journal : w₂.journal = w₁.journal
  /-- The reads that fail are the same. -/
  reads : ∀ method : StoreMethod, method.isRead = true → w₂.faults method = w₁.faults method
  faults : k.agree → w₂.faults = w₁.faults
  clock : k.exact → w₂.clock = w₁.clock ∧ w₂.readings = w₁.readings
  names : k.exact → w₂.ids = w₁.ids ∧ w₂.begun = w₁.begun

/-- Akin worlds are tied from the beginning on. -/
theorem World.Akin.tied {k : Leeway} {w₁ w₂ : World σ π} (h : w₁.Akin k w₂) :
    w₁.Tied k w₁.journal (fun p q => p = w₁.publisher ∧ q = w₂.publisher) w₂ where
  traced := ⟨[], [], by simp, by simp [h.journal], .nil⟩
  consulted := by rw [h.store]
  reads := h.reads
  faults := h.faults
  model := h.model
  regexes := h.regexes
  clock := h.clock
  names := h.names
  publisher := ⟨rfl, rfl⟩

/-- Two reports are alike: the sessions are the same but for their names, those of their artifacts
and the moments of their phases, and so are the logs, up to a leeway. -/
structure SessionReport.Alike (k : Leeway) (r₁ r₂ : SessionReport) : Prop where
  session : r₂.session = { r₁.session with
    id := r₂.session.id
    artifactId := r₂.session.artifactId
    timeline := r₂.session.timeline }
  artifact : r₂.session.artifactId.isSome = r₁.session.artifactId.isSome
  logs : List.Forall₂ (LogEntry.Alike k) r₁.logs r₂.logs
  exact : k.exact → r₂.session = r₁.session

/-- Reports of two runs with no leeway are the same. -/
theorem SessionReport.Alike.eq {k : Leeway} {r₁ r₂ : SessionReport} (h : r₁.Alike k r₂)
    (hexact : k.exact) (hway : k.right = k.left) (hagree : k.agree) : r₂ = r₁ := by
  have hlogs := LogEntry.eq_of_alike h.logs hexact hway hagree
  have hsession := h.exact hexact
  cases r₁
  cases r₂
  cases hlogs
  cases hsession
  rfl

/-- Alike sessions that have ended are reported alike. -/
theorem Flight.Alike.report {k : Leeway} {S : World σ π → World σ π → Prop} {f₁ f₂ : Flight σ π}
    (h : f₁.Alike k S f₂) (hended : f₁.session.status.isTerminal = true) :
    SessionReport.Alike k ⟨f₁.session, f₁.run.history⟩ ⟨f₂.session, f₂.run.history⟩ := by
  have hstatus : k.status f₁.session.status = f₁.session.status := by
    refine k.status_eq ⟨?_, ?_⟩ <;> intro heq <;> rw [heq] at hended <;> cases hended
  have hsame := h.session.same
  rw [hstatus] at hsame
  refine ⟨hsame, h.session.artifact, h.history, fun hexact => ?_⟩
  obtain ⟨hid, hartifact, htimeline⟩ := h.session.exact hexact
  dsimp only
  rw [hsame, hid, hartifact, htimeline]

variable [ModelService σ] [Publisher π]

/-- Two runs of one request in worlds that are the same to begin with. -/
theorem World.Akin.runs {k : Leeway} {w₁ w₂ : World σ π} (h : w₁.Akin k w₂) (config : Config)
    (request : ComponentRequest) :
    ∃ f₁ f₂ : Flight σ π,
      k.left.run config request w₁ = some (⟨f₁.session, f₁.run.history⟩, f₁.world) ∧
      k.right.run config request w₂ = some (⟨f₂.session, f₂.run.history⟩, f₂.world) ∧
      f₁.session.status.isTerminal = true ∧
      f₁.Landed k (World.Tied k w₁.journal fun p q => p = w₁.publisher ∧ q = w₂.publisher)
        (World.Traced k w₁.journal) f₂ := by
  obtain ⟨f₁, f₂, hrun₁, hrun₂, hlanded⟩ :=
    (World.Tied.tandem k w₁.journal _).runs config request h.tied
  obtain ⟨g₁, hg₁, hentry₁⟩ := k.left.run_eq config request w₁
  obtain ⟨g₂, hg₂, hentry₂⟩ := k.right.run_eq config request w₂
  cases hrun₁.symm.trans hg₁
  cases hrun₂.symm.trans hg₂
  obtain ⟨report, w', hreport, hended⟩ := k.left.run_ended config request w₁
  cases hreport.symm.trans hentry₁
  exact ⟨f₁, f₂, hentry₁, hentry₂, hended.isTerminal, hlanded⟩

/-- Publishers that come to alike results leave two runs alike. -/
theorem Flight.Landed.alike_of_publishers {k : Leeway} {past : List Effect} {p₁ p₂ : π}
    {f₁ f₂ : Flight σ π}
    (h : f₁.Landed k (World.Tied k past fun p q => p = p₁ ∧ q = p₂) (World.Traced k past) f₂)
    (hpublishers : Publisher.Alike k p₁ p₂) : f₁.Alike k (World.Traced k past) f₂ :=
  h.alike (World.Tied.tandem k past _) (World.Tied.pace k past _) (fun hq => hq.traced)
    hpublishers.publishes

/-- The blocking run of a request and the stream on it come to the same: they ask the same of the
world in the same order, and report alike sessions and logs. -/
theorem execute_agrees_with_stream (config : Config) (request : ComponentRequest) {exact : Prop}
    {w₁ w₂ : World σ π} (h : w₁.Akin ⟨.blocking, .streaming, exact, True⟩ w₂)
    (hpublishers :
      Publisher.Alike ⟨.blocking, .streaming, exact, True⟩ w₁.publisher w₂.publisher) :
    ∃ report₁ report₂ w₁' w₂' effects₁ effects₂,
      execute config request w₁ = .ok report₁ w₁' ∧
      Entry.streaming.run config request w₂ = some (report₂, w₂') ∧
      w₁'.journal = w₁.journal ++ effects₁ ∧ w₂'.journal = w₂.journal ++ effects₂ ∧
      List.Forall₂ (Effect.Alike ⟨.blocking, .streaming, exact, True⟩) effects₁ effects₂ ∧
      report₁.Alike ⟨.blocking, .streaming, exact, True⟩ report₂ := by
  obtain ⟨f₁, f₂, hrun₁, hrun₂, hended, hlanded⟩ := h.runs config request
  have halike := hlanded.alike_of_publishers hpublishers
  obtain ⟨effects₁, effects₂, hjournal₁, hjournal₂, heffects⟩ := halike.world
  exact ⟨_, _, _, _, effects₁, effects₂, Entry.execute_of_run hrun₁, hrun₂, hjournal₁,
    hjournal₂.trans (by rw [h.journal]), heffects, halike.report hended⟩

/-- A stream that is asked later, in a world that gives other names. -/
theorem execute_agrees_with_later_stream :
    let request : ComponentRequest := { tenant := "acme", user := "ann", prompt := "A button" }
    let w₁ : World ScriptedModel MemoryPublisher := {
      store := .withPolicy 300
      faults := fun method number => method = .appendAudit && number = 0
      model := {}
      publisher := { names := fun _ => "artifact" }
      regexes := { limit := 1048576 }
      journal := []
      clock := fun reading => ⟨reading, 0⟩
      readings := 0
      ids := fun number => ⟨number⟩
      begun := 0 }
    let w₂ : World ScriptedModel MemoryPublisher := { w₁ with
      publisher := { names := fun _ => "another" }
      clock := fun reading => ⟨reading + 60, 0⟩
      ids := fun number => ⟨number + 7⟩ }
    let k : Leeway := ⟨.blocking, .streaming, False, True⟩
    w₁.Akin k w₂ ∧ Publisher.Alike k w₁.publisher w₂.publisher ∧
      ∃ report₁ report₂ w₁' w₂' effects₁ effects₂,
        execute {} request w₁ = .ok report₁ w₁' ∧
        Entry.streaming.run {} request w₂ = some (report₂, w₂') ∧
        w₁'.journal = effects₁ ∧ w₂'.journal = effects₂ ∧
        List.Forall₂ (Effect.Alike k) effects₁ effects₂ ∧ report₁.Alike k report₂ := by
  intro request w₁ w₂ k
  have hakin : w₁.Akin k w₂ := ⟨rfl, rfl, rfl, rfl, fun _ _ => rfl, fun _ => rfl, False.elim,
    False.elim⟩
  have hpublishers : Publisher.Alike k w₁.publisher w₂.publisher :=
    MemoryPublisher.alike rfl False.elim
  exact ⟨hakin, hpublishers, execute_agrees_with_stream {} request hakin hpublishers⟩

end ArtifactPipeline
