import ArtifactPipeline.Proofs.Charges
import ArtifactPipeline.Proofs.Ranking
import ArtifactPipeline.Proofs.TenantIsolation
import ArtifactPipeline.Proofs.TotalOrder

/-!
# Which patterns a plan refers to

The patterns of an intent are ranked by uses, then by the share of successes, and those that are
level stand as in the store. Without patterns of the intent all are ranked, by uses alone. The
references lead to the first three places of the ranking.
-/

namespace ArtifactPipeline

variable {σ π : Type}

/-- A place ranks before another one: its pattern has more uses, or as many and, if rates count, the
greater success rate, or the two are level and it stands first. -/
def RanksBefore (byRate : Bool) (patterns : List PatternRecord) (i j : Fin patterns.length) :
    Prop :=
  patterns[j].usageCount < patterns[i].usageCount ∨
  patterns[j].usageCount = patterns[i].usageCount ∧
    (byRate = true ∧ Decimal.rank patterns[j].successRate < Decimal.rank patterns[i].successRate ∨
      (byRate = true → patterns[j].successRate = patterns[i].successRate) ∧ i < j)

/-- References lead to the three patterns that rank first, and carry the scores. -/
structure RefersToFirst (byRate : Bool) (scores : List Float) (patterns : List PatternRecord)
    (references : List PatternReference) (places : List (Fin patterns.length)) : Prop where
  leading : Leading (RanksBefore byRate patterns) 3 places
  ids : references.map (·.id) = places.map (patterns[·].id)
  names : references.map (·.name) = places.map (patterns[·].name)
  similarities : references.map (·.similarity) = scores.take references.length
  nodup : (references.map (·.id)).Nodup
  /-- If rates count, a pattern with as many uses that is left out has no greater rate. -/
  rates : byRate = true → ∀ i ∈ places, ∀ j, j ∉ places →
    patterns[j].usageCount = patterns[i].usageCount →
    ¬ patterns[i].successRate < patterns[j].successRate

/-- Of two patterns with as many uses the one with the lower share does not rank first. -/
theorem RanksBefore.not_lt {patterns : List PatternRecord} {i j : Fin patterns.length}
    (h : RanksBefore true patterns i j)
    (huses : patterns[j].usageCount = patterns[i].usageCount) :
    ¬ patterns[i].successRate < patterns[j].successRate := by
  intro hlt
  have hrank := Decimal.rank_lt_rank hlt
  rcases h with hless | ⟨-, ⟨-, hgreater⟩ | ⟨hlevel, -⟩⟩
  · rw [huses] at hless
    exact UInt64.lt_irrefl _ hless
  · omega
  · rw [hlevel rfl] at hrank
    omega

namespace Plan

variable {patterns : List PatternRecord} {scores : List Float}

/-- A pattern ranks at least as high as another one if, as a number, it has more uses, or as many and
a rate that ranks as high. -/
theorem ranksAbove_iff {p q : PatternRecord} :
    ranksAbove p q = true ↔ q.usageCount.toNat < p.usageCount.toNat ∨
      q.usageCount.toNat = p.usageCount.toNat ∧
        Decimal.rank q.successRate ≤ Decimal.rank p.successRate := by
  simp only [ranksAbove, Bool.or_eq_true, Bool.and_eq_true, decide_eq_true_eq, beq_iff_eq,
    UInt64.lt_iff_toNat_lt, UInt64.toNat_inj]

/-- Patterns are ranked by their uses and rates. -/
theorem isRanking_ranksAbove : IsRanking ranksAbove where
  trans p q r := by
    simp only [ranksAbove_iff]
    omega
  total p q := by
    simp only [Bool.or_eq_true, ranksAbove_iff]
    omega

/-- Patterns are ranked by their uses alone. -/
theorem isRanking_uses :
    IsRanking fun p q : PatternRecord => q.usageCount ≤ p.usageCount := by
  simpa only [UInt64.le_iff_toNat_le] using
    Ranking.isRanking_key fun p : PatternRecord => p.usageCount.toNat

/-- What comes first in the ranking by uses and rates ranks before the others. -/
theorem ranksBefore_of_ranksAbove {i j : Fin patterns.length}
    (h : Ranking.Before ranksAbove patterns i j) : RanksBefore true patterns i j := by
  obtain ⟨habove, hlevel⟩ := h
  rw [ranksAbove_iff] at habove hlevel
  rcases habove with hless | ⟨huses, hrank⟩
  · exact .inl (UInt64.lt_iff_toNat_lt.mpr hless)
  · refine .inr ⟨UInt64.toNat_inj.mp huses, ?_⟩
    by_cases hrates : Decimal.rank patterns[j].successRate = Decimal.rank patterns[i].successRate
    · exact .inr ⟨fun _ => Decimal.rank_injective hrates, hlevel (by omega)⟩
    · exact .inl ⟨rfl, by omega⟩

/-- What comes first in the ranking by uses ranks before the others, if rates do not count. -/
theorem ranksBefore_of_uses {i j : Fin patterns.length}
    (h : Ranking.Before (fun p q => q.usageCount ≤ p.usageCount) patterns i j) :
    RanksBefore false patterns i j := by
  obtain ⟨habove, hlevel⟩ := h
  rw [decide_eq_true_eq, UInt64.le_iff_toNat_le] at habove hlevel
  by_cases huses : patterns[j].usageCount = patterns[i].usageCount
  · have hlevel := hlevel (huses ▸ Nat.le_refl _)
    exact .inr ⟨huses, .inr ⟨fun hrates => (by cases hrates), hlevel⟩⟩
  · rw [← UInt64.toNat_inj] at huses
    exact .inl (UInt64.lt_iff_toNat_lt.mpr (by omega))

/-- References carry the first of the scores. -/
theorem map_similarity_toReferences (patterns : List PatternRecord) (scores : List Float) :
    (toReferences patterns scores).map (·.similarity) =
      scores.take (toReferences patterns scores).length := by
  induction patterns generalizing scores with
  | nil => simp [toReferences]
  | cons p patterns ih =>
    cases scores with
    | nil => simp [toReferences]
    | cons score scores => simpa [toReferences] using ih scores

/-- The references to a ranking with three scores lead to its first three places. -/
theorem refersToFirst_toReferences {above : PatternRecord → PatternRecord → Bool} {byRate : Bool}
    (habove : IsRanking above) (hscores : scores.length = 3)
    (hnodup : (patterns.map (·.id)).Nodup)
    (hbefore : ∀ i j, Ranking.Before above patterns i j → RanksBefore byRate patterns i j) :
    ∃ places, RefersToFirst byRate scores patterns
      (toReferences (patterns.mergeSort above) scores) places := by
  have hleading : Leading (RanksBefore byRate patterns) 3
      ((Ranking.places above patterns).take 3) :=
    (Ranking.leading_take habove patterns 3).imp hbefore
  have hfirst : (patterns.mergeSort above).take scores.length =
      ((Ranking.places above patterns).take 3).map (patterns[·]) := by
    rw [hscores, List.map_take, Ranking.map_places]
  refine ⟨_, hleading, ?_, ?_, map_similarity_toReferences _ scores,
    toReferences_nodup _ hnodup (List.mergeSort_perm _ _), ?_⟩
  · rw [map_toReferences (·.id) (·.id) fun _ _ => rfl, hfirst, List.map_map]
    rfl
  · rw [map_toReferences (·.name) (·.name) fun _ _ => rfl, hfirst, List.map_map]
    rfl
  · intro hrates i hi j hj huses
    subst hrates
    exact (hleading.ahead i hi j hj).not_lt huses

end Plan

/-- The store of a world can be asked for patterns. -/
structure World.ListsPatterns (w : World σ π) : Prop where
  online : w.store.offline = false
  faultless : ∀ number, w.faults .listPatterns number = false

/-- A world that lists its patterns does not refuse to. -/
theorem World.ListsPatterns.refusal? {w : World σ π} (h : w.ListsPatterns) :
    w.refusal? .listPatterns = none := by
  rw [World.refusal?, h.faultless, h.online]
  rfl

/-- Similar patterns are those of the intent, or any if there are none. -/
theorem outcome_findSimilar {w : World σ π} (h : w.ListsPatterns) (intent : Intent) :
    ((findSimilar intent).outcome w).1 =
      let same := w.store.patterns.filter (·.intent == intent)
      .ok (if same.isEmpty then Plan.similarOfAny w.store.patterns
        else Plan.similarOfIntent same) := by
  have hsecond : World.refusal?
      { w with journal := w.journal ++ [.store (.listPatterns (some intent)) none] }
      .listPatterns = none :=
    World.ListsPatterns.refusal? ⟨h.online, h.faultless⟩
  have hmethod (i : Option Intent) : (StoreCall.listPatterns i).method = .listPatterns := rfl
  have hall : w.store.patterns.filter (fun p => (none : Option Intent).all (p.intent == ·)) =
      w.store.patterns := List.filter_eq_self.mpr fun _ _ => rfl
  rw [findSimilar, Work.outcome_store_bind _ rfl, hmethod, h.refusal?]
  dsimp only [reading, Except.bind, Option.all_some]
  split
  · rw [Work.outcome_store_bind _ rfl, hmethod, hsecond, hall]
    rfl
  · rfl

/-- The references lead to the first three patterns of the intent by uses, success rate and place in
the store, or, if it has none, to the first three of all by uses and place. -/
theorem findSimilar_refersToFirst {w : World σ π} (h : w.ListsPatterns)
    (hnodup : (w.store.patterns.map (·.id)).Nodup) (intent : Intent) :
    let same := w.store.patterns.filter (·.intent == intent)
    ∃ references, ((findSimilar intent).outcome w).1 = .ok references ∧
      ((same ≠ [] ∧ ∃ places, RefersToFirst true [0.9, 0.8, 0.7] same references places) ∨
        (same = [] ∧ ∃ places,
          RefersToFirst false [0.5, 0.4, 0.3] w.store.patterns references places)) := by
  intro same
  refine ⟨_, outcome_findSimilar h intent, ?_⟩
  by_cases hsame : same = []
  · refine .inr ⟨hsame, ?_⟩
    rw [if_pos (List.isEmpty_iff.mpr hsame)]
    exact Plan.refersToFirst_toReferences Plan.isRanking_uses rfl hnodup
      fun _ _ => Plan.ranksBefore_of_uses
  · refine .inl ⟨hsame, ?_⟩
    rw [if_neg (mt List.isEmpty_iff.mp hsame)]
    exact Plan.refersToFirst_toReferences Plan.isRanking_ranksAbove rfl
      (hnodup.sublist (List.filter_sublist.map _)) fun _ _ => Plan.ranksBefore_of_ranksAbove

/-- A store with four patterns of one intent, three of them with as many uses and two of those with
the same success rate. -/
theorem findSimilar_refersToFirst_level :
    let pattern (id : String) (intent : Intent) (uses successes : UInt64) : PatternRecord := {
      id, name := "Pattern " ++ id, intent, code := none, usageCount := uses,
      successCount := successes, failureCount := uses - successes }
    let patterns := [pattern "a" .chart 5 1, pattern "b" .form 9 9, pattern "c" .chart 5 5,
      pattern "d" .chart 5 1, pattern "e" .chart 7 0]
    let w : World ScriptedModel MemoryPublisher := {
      store := { patterns }
      faults := fun _ _ => false
      model := {}
      publisher := { names := fun _ => "artifact" }
      regexes := { limit := 1048576 }
      journal := []
      clock := fun reading => ⟨reading, 0⟩
      readings := 0
      ids := fun number => ⟨number⟩
      begun := 0 }
    w.ListsPatterns ∧ (patterns.map (·.id)).Nodup ∧
      ∃ references, ((findSimilar .chart).outcome w).1 = .ok references ∧
        ∃ places, RefersToFirst true [0.9, 0.8, 0.7] (patterns.filter (·.intent == .chart))
          references places := by
  intro pattern patterns w
  have hlists : w.ListsPatterns := ⟨rfl, fun _ => rfl⟩
  have hnodup : (patterns.map (·.id)).Nodup := by decide
  obtain ⟨references, houtcome, ⟨-, hfirst⟩ | ⟨hnone, -⟩⟩ :=
    findSimilar_refersToFirst hlists hnodup .chart
  · exact ⟨hlists, hnodup, references, houtcome, hfirst⟩
  · cases hnone

end ArtifactPipeline
