import ArtifactPipeline.Plan.Routing
import ArtifactPipeline.Proofs.Ranking

/-!
# Which strategy chooses the tier

A strategy prevails if it applies, no strategy that applies has a higher priority, and none with the
same priority stands before it. The prevailing strategy makes the decision, and without one the tier
is the capable one. The model is the one that the settings name for the tier. So only the order
among strategies of one priority matters.
-/

namespace ArtifactPipeline

/-- The strategy at a place prevails for some input: of those that apply it is the first one with
the highest priority. -/
structure Prevails (strategies : List RoutingStrategy) (input : RoutingInput)
    (i : Fin strategies.length) : Prop where
  applies : strategies[i].appliesTo input = true
  highest : ∀ j : Fin strategies.length, strategies[j].appliesTo input = true →
    strategies[j].priority ≤ strategies[i].priority
  first : ∀ j : Fin strategies.length, strategies[j].appliesTo input = true →
    strategies[j].priority = strategies[i].priority → i ≤ j

/-- A decision is made for a tier and gives a reason. Its model is the one that is set for the
tier. -/
structure DecidesFor (models : ModelSettings) (chosen : Tier) (reason : String)
    (d : RoutingDecision) : Prop where
  tier : d.tier = chosen
  fastModel : chosen = .fast → d.modelId = models.fastModel
  capableModel : chosen = .capable → d.modelId = models.capableModel
  reasoning : d.reasoning = reason

/-- The decision for a tier carries the model of that tier. -/
theorem decidesFor_modelFor (models : ModelSettings) (chosen : Tier) (reason : String) :
    DecidesFor models chosen reason ⟨chosen, models.modelFor chosen, reason⟩ where
  tier := rfl
  fastModel h := congrArg models.modelFor h
  capableModel h := congrArg models.modelFor h
  reasoning := rfl

/-- Two lists hold the same strategies, and those of each priority in the same order. -/
def Reorders (strategies reordered : List RoutingStrategy) : Prop :=
  ∀ priority, reordered.filter (·.priority == priority) = strategies.filter (·.priority == priority)

/-- By falling priority, the first strategy that applies is the one that prevails, or none does. -/
theorem prevails_or_none (strategies : List RoutingStrategy) (input : RoutingInput) :
    let ranked := strategies.mergeSort fun a b => b.priority ≤ a.priority
    (∃ i : Fin strategies.length, Prevails strategies input i ∧
      ranked.find? (·.appliesTo input) = some strategies[i]) ∨
    ((∀ s ∈ strategies, s.appliesTo input = false) ∧
      ranked.find? (·.appliesTo input) = none) := by
  intro ranked
  rcases Ranking.find?_mergeSort_cases (Ranking.isRanking_key RoutingStrategy.priority)
    (·.appliesTo input) strategies with ⟨i, happlies, hbefore, hfind⟩ | hnone
  · refine .inl ⟨i, ⟨happlies, fun j hj => ?_, fun j hj hsame => ?_⟩, hfind⟩
    · by_cases hij : j = i
      · rw [hij]
      · exact of_decide_eq_true (hbefore j hj hij).1
    · by_cases hij : j = i
      · rw [hij]
      · apply Fin.le_of_lt
        apply (hbefore j hj hij).2
        rw [decide_eq_true_eq]
        omega
  · exact .inr hnone

/-- The first strategy with the highest priority among those that apply makes the decision. Without
such a strategy the tier is the capable one. Strategies may be reordered as long as those of each
priority keep their order. -/
theorem route_prevailing (models : ModelSettings) (strategies : List RoutingStrategy)
    (input : RoutingInput) :
    ((∃ i : Fin strategies.length, Prevails strategies input i ∧
        DecidesFor models (strategies[i].tier input) strategies[i].name
          (route models strategies input)) ∨
      ((∀ s ∈ strategies, s.appliesTo input = false) ∧
        DecidesFor models .capable "default" (route models strategies input))) ∧
    ∀ reordered, Reorders strategies reordered →
      route models reordered input = route models strategies input := by
  constructor
  · unfold route
    dsimp only
    rcases prevails_or_none strategies input with ⟨i, hprevails, hfind⟩ | ⟨hnone, hfind⟩
    · refine .inl ⟨i, hprevails, ?_⟩
      rw [hfind]
      exact decidesFor_modelFor models _ _
    · refine .inr ⟨hnone, ?_⟩
      rw [hfind]
      exact decidesFor_modelFor models _ _
  · intro reordered hreorders
    unfold route
    rw [Ranking.mergeSort_key_congr RoutingStrategy.priority hreorders]

/-- Two strategies share the highest priority, and a third one with a lower priority moves past the
first of them. The first of the two decides for the fast tier and its model, before and after. -/
theorem route_prevailing_tie :
    let low : RoutingStrategy := ⟨"low", 10, fun _ => true, fun _ => .capable⟩
    let first : RoutingStrategy := ⟨"first", 20, (·.complexity == .simple), fun _ => .fast⟩
    let second : RoutingStrategy := ⟨"second", 20, fun _ => true, fun _ => .capable⟩
    let models : ModelSettings := { fastModel := "quick", capableModel := "deep" }
    Reorders [low, first, second] [first, low, second] ∧
      route models [low, first, second] ⟨.simple, .balanced⟩ = ⟨.fast, "quick", "first"⟩ ∧
      route models [first, low, second] ⟨.simple, .balanced⟩ =
        route models [low, first, second] ⟨.simple, .balanced⟩ := by
  intro low first second models
  have hreorders : Reorders [low, first, second] [first, low, second] := by
    intro priority
    by_cases hlow : 10 = priority
    · subst hlow
      rfl
    · by_cases hhigh : 20 = priority
      · subst hhigh
        rfl
      · simp [low, first, second, hlow, hhigh]
  obtain ⟨hdecides, hsame⟩ := route_prevailing models [low, first, second] ⟨.simple, .balanced⟩
  refine ⟨hreorders, ?_, hsame _ hreorders⟩
  rcases hdecides with ⟨i, hprevails, hdecides⟩ | ⟨hnone, -⟩
  · have hfirst : i = (1 : Fin 3) := by
      rcases i with ⟨_ | _ | _ | i, hi⟩
      · have hhighest : 20 ≤ 10 := hprevails.highest (1 : Fin 3) rfl
        omega
      · rfl
      · have hleading : 2 ≤ 1 := hprevails.first (1 : Fin 3) rfl rfl
        omega
      · simp only [List.length_cons, List.length_nil] at hi
        omega
    subst hfirst
    obtain ⟨htier, hmodel, -, hreason⟩ := hdecides
    generalize route models [low, first, second] ⟨.simple, .balanced⟩ = d at htier hmodel hreason
    obtain ⟨tier, modelId, reasoning⟩ := d
    obtain rfl : tier = .fast := htier
    obtain rfl : modelId = "quick" := hmodel rfl
    obtain rfl : reasoning = "first" := hreason
    rfl
  · exact absurd (hnone low (by simp)) (by decide)

end ArtifactPipeline
