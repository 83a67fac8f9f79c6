import ArtifactPipeline.Metrics.Tenant
import ArtifactPipeline.Proofs.Counters
import ArtifactPipeline.Proofs.Ranking
import Mathlib.Algebra.BigOperators.Fin

/-!
# Figures and direct counts

The figures about a tenant are counts and sums over the sessions, the most frequent of the planned
intents, and the newest sessions. The counts of the intents may come from a table in any order, since
no two of them are level. So all these figures are the same for sessions in another order, except
for which sessions of one moment are listed.
-/

namespace ArtifactPipeline

open Time

/-- How many items of a list satisfy a condition. -/
def howMany {α : Type} (items : List α) (p : α → Prop) [DecidablePred p] : Nat :=
  (Finset.univ.filter fun i : Fin items.length => p (items.get i)).card

/-- Counting the items by their places in the list is counting them one after another. -/
theorem howMany_eq_countP {α : Type} (items : List α) (p : α → Prop) [DecidablePred p] :
    howMany items p = items.countP fun a => decide (p a) := by
  induction items with
  | nil => rfl
  | cons a items ih =>
    have hrest : (Finset.univ.filter fun i : Fin items.length => p (items.get i)).card =
        items.countP fun a => decide (p a) := ih
    unfold howMany
    simp only [List.length_cons]
    rw [Fin.card_filter_univ_succ']
    simp only [List.countP_cons, decide_eq_true_eq]
    rw [Nat.add_comm, ← hrest]
    rfl

/-- The intents that the sessions were planned with. -/
def plannedIntents (sessions : List Session) : Finset Intent :=
  (sessions.filterMap fun s => s.plan.map (·.intent)).toFinset

/-- How many sessions were planned with an intent. -/
def plannedCount (sessions : List Session) (intent : Intent) : Nat :=
  howMany sessions fun s => s.plan.map (·.intent) = some intent

/-- A table has each planned intent once, with its count. -/
structure Tallies (sessions : List Session) (table : List IntentCount) : Prop where
  nodup : table.Nodup
  mem_iff : ∀ c, c ∈ table ↔
    c.intent ∈ plannedIntents sessions ∧ c.count = plannedCount sessions c.intent

/-- A count is listed before another one: it is higher, or they are equal and the name of its intent
comes first. -/
def ListedBefore (a b : IntentCount) : Prop :=
  b.count < a.count ∨ b.count = a.count ∧ a.intent.label < b.intent.label

/-- The five most frequent intents, or all if there are fewer. -/
structure MostFrequent (sessions : List Session) (listed : List IntentCount) : Prop where
  length : listed.length = min 5 (plannedIntents sessions).card
  counts : ∀ c ∈ listed,
    c.intent ∈ plannedIntents sessions ∧ c.count = plannedCount sessions c.intent
  ordered : listed.Pairwise ListedBefore
  ahead : ∀ c ∈ listed, ∀ intent ∈ plannedIntents sessions, intent ∉ listed.map (·.intent) →
    ListedBefore c ⟨intent, plannedCount sessions intent⟩

/-- A session comes before another one: it is newer, or both are of one moment and it stands first. -/
def NewerFirst (sessions : List Session) (i j : Fin sessions.length) : Prop :=
  sessions[j].timeline.created.lt sessions[i].timeline.created = true ∨
    sessions[j].timeline.created = sessions[i].timeline.created ∧ i < j

/-- Figures agree with counts and sums that are taken directly from the sessions. -/
structure CountedFrom (sessions : List Session) (m : TenantMetrics) : Prop where
  total : m.total = sessions.length
  successRate : m.successRate =
    if sessions = [] then 0.0
    else (howMany sessions (·.status = .completed)).toFloat / sessions.length.toFloat
  repairRate : m.repairRate =
    if sessions = [] then 0.0
    else (howMany sessions (0 < ·.attempts)).toFloat / sessions.length.toFloat
  totalTokens : Counts m.totalTokens (∑ i : Fin sessions.length,
    (sessions[i].usage.input.toNat + sessions[i].usage.output.toNat))
  topIntents : MostFrequent sessions m.topIntents
  /-- The order of the table that the counts come from does not matter. -/
  anyTable : ∀ table, Tallies sessions table →
    (table.mergeSort TenantMetrics.countsAbove).take 5 = m.topIntents
  recent : ∃ places, Leading (NewerFirst sessions) 10 places ∧
    m.recent = places.map fun i => .ofSession sessions[i]

/-- Figures that agree, with sessions of the same times as the newest ones. -/
structure SameFigures (m m' : TenantMetrics) : Prop where
  total : m.total = m'.total
  successRate : m.successRate = m'.successRate
  repairRate : m.repairRate = m'.repairRate
  totalTokens : m.totalTokens = m'.totalTokens
  topIntents : m.topIntents = m'.topIntents
  created : m.recent.map (·.created) = m'.recent.map (·.created)

attribute [ext] IntentCount Time.Instant

variable {sessions sessions' : List Session} {table table' : List IntentCount}
variable {a b c : IntentCount}

/-! ## Counts of intents -/

/-- Every intent is in the list of all intents. -/
theorem Intent.mem_all (i : Intent) : i ∈ Intent.all := by
  cases i <;> decide

/-- No two intents have the same name. -/
theorem Intent.label_inj {i j : Intent} (h : i.label = j.label) : i = j := by
  have hnodup : (Intent.all.map Intent.label).Nodup := by decide
  exact List.inj_on_of_nodup_map hnodup (Intent.mem_all i) (Intent.mem_all j) h

/-- An intent occurs among the intents of the plans as often as a session was planned with it.
-/
theorem count_planned (sessions : List Session) (intent : Intent) :
    (sessions.filterMap fun s => s.plan.map (·.intent)).count intent =
      plannedCount sessions intent := by
  rw [plannedCount, howMany_eq_countP, List.count_filterMap]
  simp only [beq_eq_decide]

/-- The planned intents are those that some session was planned with. -/
theorem mem_plannedIntents {intent : Intent} :
    intent ∈ plannedIntents sessions ↔ 0 < plannedCount sessions intent := by
  rw [plannedIntents, List.mem_toFinset, ← List.count_pos_iff, count_planned]

/-- The order of the sessions does not matter for the planned intents. -/
theorem plannedIntents_perm (h : sessions'.Perm sessions) :
    plannedIntents sessions' = plannedIntents sessions :=
  List.toFinset_eq_of_perm _ _ (h.filterMap _)

/-- The order of the items does not matter for their count. -/
theorem howMany_perm {α : Type} {items items' : List α} (h : items'.Perm items) (p : α → Prop)
    [DecidablePred p] : howMany items' p = howMany items p := by
  rw [howMany_eq_countP, howMany_eq_countP]
  exact h.countP_eq _

/-- A table of the counts is one for the sessions in any other order. -/
theorem Tallies.of_perm (h : Tallies sessions table) (hperm : sessions'.Perm sessions) :
    Tallies sessions' table where
  nodup := h.nodup
  mem_iff c := by
    rw [h.mem_iff, plannedIntents_perm hperm, plannedCount, plannedCount, howMany_perm hperm]

/-- Tables for the same sessions differ in their order at most. -/
theorem Tallies.perm (h : Tallies sessions table) (h' : Tallies sessions table') :
    table.Perm table' := by
  apply (List.perm_ext_iff_of_nodup h.nodup h'.nodup).mpr
  intro c
  rw [h.mem_iff, h'.mem_iff]

/-- A table of the counts has a line for each planned intent. -/
theorem Tallies.length (h : Tallies sessions table) :
    table.length = (plannedIntents sessions).card := by
  have hintents : (table.map (·.intent)).Nodup := by
    apply h.nodup.map_on
    intro a ha b hb hsame
    have hcount : a.count = b.count := by
      rw [((h.mem_iff a).mp ha).2, ((h.mem_iff b).mp hb).2, hsame]
    exact IntentCount.ext hsame hcount
  have hset : (table.map (·.intent)).toFinset = plannedIntents sessions := by
    ext intent
    rw [List.mem_toFinset, List.mem_map]
    constructor
    · rintro ⟨c, hc, rfl⟩
      exact ((h.mem_iff c).mp hc).1
    · intro hplanned
      exact ⟨⟨intent, plannedCount sessions intent⟩, (h.mem_iff _).mpr ⟨hplanned, rfl⟩, rfl⟩
  rw [← hset, List.toFinset_card_of_nodup hintents, List.length_map]

/-! ## The order of counts -/

/-- Of two counts only one can be listed before the other. -/
theorem ListedBefore.asymm (h : ListedBefore a b) : ¬ ListedBefore b a := by
  rintro (hcount | ⟨hcount, hlabel⟩)
  · rcases h with h | ⟨h, -⟩ <;> omega
  · rcases h with h | ⟨-, h⟩
    · omega
    · exact String.lt_asymm h hlabel

/-- Counts are listed in one line. -/
theorem ListedBefore.trans (hab : ListedBefore a b) (hbc : ListedBefore b c) :
    ListedBefore a c := by
  rcases hab with hab | ⟨hab, hlabel⟩ <;> rcases hbc with hbc | ⟨hbc, hlabel'⟩
  · exact .inl (by omega)
  · exact .inl (by omega)
  · exact .inl (by omega)
  · exact .inr ⟨by omega, String.lt_trans hlabel hlabel'⟩

/-- No two counts are level. -/
theorem eq_of_not_listedBefore (hab : ¬ ListedBefore a b) (hba : ¬ ListedBefore b a) :
    a = b := by
  unfold ListedBefore at hab hba
  have hcount : a.count = b.count := by omega
  have hlabel : a.intent.label = b.intent.label := by
    apply String.le_antisymm
    · exact String.not_lt.mp fun h => hba (.inr ⟨hcount, h⟩)
    · exact String.not_lt.mp fun h => hab (.inr ⟨hcount.symm, h⟩)
  exact IntentCount.ext (Intent.label_inj hlabel) hcount

namespace TenantMetrics

/-- The comparison that sorts the table says that the second count is not listed before the
first. -/
theorem countsAbove_iff : countsAbove a b = true ↔ ¬ ListedBefore b a := by
  simp only [countsAbove, ListedBefore, Bool.or_eq_true, Bool.and_eq_true, decide_eq_true_eq,
    beq_iff_eq, ← String.not_lt]
  by_cases hlabel : b.intent.label < a.intent.label
  · simp only [hlabel, not_true, and_true, and_false, or_false]
    omega
  · simp only [hlabel, not_false_eq_true, and_true, and_false, or_false]
    omega

/-- Counts that are above each other are the same, since no two intents have the same name. -/
theorem eq_of_countsAbove (hab : countsAbove a b = true) (hba : countsAbove b a = true) :
    a = b :=
  eq_of_not_listedBefore (countsAbove_iff.mp hba) (countsAbove_iff.mp hab)

/-- A count above another one is listed before it if they differ. -/
theorem listedBefore_of_countsAbove (h : countsAbove a b = true) (hne : a ≠ b) :
    ListedBefore a b := by
  by_contra hnot
  exact hne (eq_of_countsAbove h (countsAbove_iff.mpr hnot))

/-- The comparison of counts is a ranking, so the table can be sorted by it. -/
theorem isRanking_countsAbove : IsRanking countsAbove where
  trans a b c hab hbc := by
    by_cases hne : a = b
    · rwa [hne]
    · rw [countsAbove_iff] at hbc ⊢
      intro hca
      exact hbc (hca.trans (listedBefore_of_countsAbove hab hne))
  total a b := by
    rw [Bool.or_eq_true]
    by_cases hab : countsAbove a b = true
    · exact .inl hab
    · rw [countsAbove_iff, not_not] at hab
      exact .inr (countsAbove_iff.mpr hab.asymm)

/-- The counts of the sessions are such a table. -/
theorem tallies_intentCounts (sessions : List Session) :
    Tallies sessions (intentCounts sessions) := by
  have htable : intentCounts sessions = (Intent.all.map fun intent =>
      ⟨intent, plannedCount sessions intent⟩).filter (·.count != 0) := by
    simp only [intentCounts, count_planned]
  rw [htable]
  refine ⟨?_, fun c => ?_⟩
  · apply List.Nodup.filter
    apply List.Nodup.map
    · intro i j h
      exact congrArg IntentCount.intent h
    · decide
  · rw [mem_plannedIntents, List.mem_filter, List.mem_map, bne_iff_ne, ← Nat.pos_iff_ne_zero]
    constructor
    · rintro ⟨⟨intent, -, rfl⟩, hpos⟩
      exact ⟨hpos, rfl⟩
    · rintro ⟨hpos, hcount⟩
      rw [← hcount] at hpos
      refine ⟨⟨c.intent, Intent.mem_all _, ?_⟩, hpos⟩
      rw [← hcount]

/-- The first five of a sorted table are the most frequent intents. -/
theorem mostFrequent_take (h : Tallies sessions table) :
    MostFrequent sessions ((table.mergeSort countsAbove).take 5) := by
  have hperm := List.mergeSort_perm table countsAbove
  have hordered : (table.mergeSort countsAbove).Pairwise ListedBefore := by
    have hsorted := List.pairwise_mergeSort isRanking_countsAbove.trans
      isRanking_countsAbove.total table
    apply (hsorted.and (h.nodup.perm hperm.symm)).imp
    rintro a b ⟨habove, hne⟩
    exact listedBefore_of_countsAbove habove hne
  constructor
  case length => rw [List.length_take, List.length_mergeSort, h.length]
  case counts =>
    intro c hc
    exact (h.mem_iff c).mp (hperm.mem_iff.mp (List.mem_of_mem_take hc))
  case ordered => exact hordered.sublist (List.take_sublist _ _)
  case ahead =>
    intro c hc intent hi hnot
    have hmem : ⟨intent, plannedCount sessions intent⟩ ∈ table.mergeSort countsAbove :=
      hperm.mem_iff.mpr ((h.mem_iff _).mpr ⟨hi, rfl⟩)
    apply Ranking.rel_of_not_mem_take hordered hc hmem
    intro hlisted
    exact hnot (List.mem_map_of_mem hlisted)

/-- All tables for the same sessions have the same first five. -/
theorem mergeSort_tallies (h : Tallies sessions table) (h' : Tallies sessions table') :
    table.mergeSort countsAbove = table'.mergeSort countsAbove :=
  Ranking.mergeSort_eq_of_perm isRanking_countsAbove (fun _ _ => eq_of_countsAbove) (h.perm h')

end TenantMetrics

/-! ## The newest sessions -/

/-- Moments are compared by their seconds first, and by the parts of a second if these are
equal. -/
theorem Time.Instant.le_iff {a b : Instant} :
    a.le b = true ↔ a.second < b.second ∨ a.second = b.second ∧ a.nano ≤ b.nano := by
  simp only [Instant.le, Bool.or_eq_true, Bool.and_eq_true, decide_eq_true_eq, beq_iff_eq]

/-- Moments neither of which is later are the same. -/
theorem Time.Instant.le_antisymm {a b : Instant} (hab : a.le b = true) (hba : b.le a = true) :
    b = a := by
  rw [Instant.le_iff] at hab hba
  apply Instant.ext <;> omega

/-- Moments are ranked, the latest first. -/
theorem isRanking_created {α : Type} (created : α → Instant) :
    IsRanking fun a b => (created b).le (created a) where
  trans a b c hab hbc := by
    rw [Instant.le_iff] at *
    omega
  total a b := by
    rw [Bool.or_eq_true, Instant.le_iff, Instant.le_iff]
    omega

/-- The order in which the sessions are sorted is the order by newness, with the places as what
decides between sessions of one moment. -/
theorem newerFirst_of_before {i j : Fin sessions.length}
    (h : Ranking.Before (fun a b => b.timeline.created.le a.timeline.created) sessions i j) :
    NewerFirst sessions i j := by
  obtain ⟨hle, hlevel⟩ := h
  by_cases hge : sessions[i].timeline.created.le sessions[j].timeline.created = true
  · exact .inr ⟨Instant.le_antisymm hge hle, hlevel hge⟩
  · refine .inl ?_
    rw [Instant.lt, Bool.not_eq_true']
    exact eq_false_of_ne_true hge

namespace TenantMetrics

/-- The share of the sessions with a property is their number over the number of all, and zero
if there are none. -/
theorem ratio_howMany (sessions : List Session) (p : Session → Prop) [DecidablePred p] :
    ratio (sessions.countP fun s => decide (p s)) sessions.length =
      if sessions = [] then 0.0 else (howMany sessions p).toFloat / sessions.length.toFloat := by
  unfold ratio
  simp only [beq_iff_eq, List.length_eq_zero_iff, howMany_eq_countP]

/-- The newest sessions are those at the first places of the ranking. -/
theorem recentOf_eq (sessions : List Session) :
    recentOf sessions =
      ((Ranking.places (fun a b => b.timeline.created.le a.timeline.created) sessions).take 10).map
        fun i => .ofSession sessions[i] := by
  dsimp only [recentOf, recentCount]
  rw [← Ranking.map_places, ← List.map_take, List.map_map]
  rfl

/-- The creation times of the newest sessions are the latest ones. -/
theorem map_created_recentOf (sessions : List Session) :
    (recentOf sessions).map (·.created) =
      ((sessions.map (·.timeline.created)).mergeSort fun a b => b.le a).take 10 := by
  have hsorted : (sessions.mergeSort fun a b => b.timeline.created.le a.timeline.created).map
      (·.timeline.created) =
        (sessions.map (·.timeline.created)).mergeSort fun a b => b.le a :=
    List.map_mergeSort fun _ _ _ _ => rfl
  dsimp only [recentOf, recentCount]
  rw [← hsorted, List.map_map, ← List.map_take]
  rfl

/-- The figures that are computed agree with the direct counts, for any sessions. -/
theorem countedFrom_ofSessions (sessions : List Session) :
    CountedFrom sessions (ofSessions sessions) where
  total := rfl
  successRate := ratio_howMany sessions (·.status = .completed)
  repairRate := ratio_howMany sessions (0 < ·.attempts)
  totalTokens := by
    have hsum := Fin.sum_univ_fun_getElem sessions fun s =>
      s.usage.input.toNat + s.usage.output.toNat
    have hcounts := Counts.foldl_add (fun s : Session =>
      (Counts.toNat s.usage.input).add (.toNat s.usage.output)) sessions (.ofNat 0)
    rw [List.sum_eq_foldl] at hsum
    exact hsum ▸ hcounts
  topIntents := mostFrequent_take (tallies_intentCounts sessions)
  anyTable table h := by
    rw [mergeSort_tallies h (tallies_intentCounts sessions)]
    rfl
  recent := by
    refine ⟨_, ?_, recentOf_eq sessions⟩
    exact (Ranking.leading_take (isRanking_created (·.timeline.created)) sessions 10).imp
      fun _ _ => newerFirst_of_before

/-- Figures about the same sessions in another order agree. -/
theorem sameFigures_of_perm (h : sessions'.Perm sessions) :
    SameFigures (ofSessions sessions') (ofSessions sessions) where
  total := h.length_eq
  successRate := by
    dsimp only [ofSessions]
    rw [h.countP_eq, h.length_eq]
  repairRate := by
    dsimp only [ofSessions]
    rw [h.countP_eq, h.length_eq]
  totalTokens := by
    dsimp only [ofSessions]
    exact (h.map _).foldl_eq 0
  topIntents :=
    (countedFrom_ofSessions sessions).anyTable _ ((tallies_intentCounts sessions').of_perm h.symm)
  created := by
    have hsorted : (sessions'.map (·.timeline.created)).mergeSort (fun a b => b.le a) =
        (sessions.map (·.timeline.created)).mergeSort fun a b => b.le a := by
      apply Ranking.mergeSort_eq_of_perm (isRanking_created id) _ (h.map _)
      intro a b hab hba
      exact Instant.le_antisymm hab hba
    dsimp only [ofSessions]
    rw [map_created_recentOf, map_created_recentOf, hsorted]

end TenantMetrics

end ArtifactPipeline
