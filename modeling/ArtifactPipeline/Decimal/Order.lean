import ArtifactPipeline.Decimal.Binary

/-!
# The total order of floating-point numbers

Every floating-point number has a place in one order that extends the order of the reals: negative
zero comes before zero, and numbers that are not numbers come at the ends.
-/

namespace ArtifactPipeline.Decimal

/-- The place of a number in the total order. -/
def rank (x : Float) : Int :=
  let bits : Int := x.toBits.toNat
  let half : Int := Nat.pow 2 63
  if bits < half then bits else half - 1 - bits

end ArtifactPipeline.Decimal
