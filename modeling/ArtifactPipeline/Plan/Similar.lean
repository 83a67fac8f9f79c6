import ArtifactPipeline.Decimal.Order
import ArtifactPipeline.Store.Record

/-!
# Similar patterns

The three stored patterns that a plan refers to: the most used ones of the same intent, or of any
intent with a lower score if there are none of the same one.
-/

namespace ArtifactPipeline

namespace Plan

/-- The scores of patterns of the same intent. -/
def sameIntentScores : List Float := [0.9, 0.8, 0.7]

/-- The scores of patterns of any intent. -/
def fallbackScores : List Float := [0.5, 0.4, 0.3]

/-- References to the first patterns of a ranking. -/
def toReferences (patterns : List PatternRecord) (scores : List Float) : List PatternReference :=
  patterns.zipWith (fun p score => ⟨p.id, score, p.name⟩) scores

/-- Whether a pattern of the same intent ranks at least as high as another: by uses, then by the
share of successes. -/
def ranksAbove (p q : PatternRecord) : Bool :=
  q.usageCount < p.usageCount ||
    (q.usageCount == p.usageCount && Decimal.rank q.successRate ≤ Decimal.rank p.successRate)

/-- References to the best patterns of the same intent. -/
def similarOfIntent (patterns : List PatternRecord) : List PatternReference :=
  toReferences (patterns.mergeSort ranksAbove) sameIntentScores

/-- References to the most used patterns of any intent. -/
def similarOfAny (patterns : List PatternRecord) : List PatternReference :=
  toReferences (patterns.mergeSort fun p q => q.usageCount ≤ p.usageCount) fallbackScores

end Plan

end ArtifactPipeline
