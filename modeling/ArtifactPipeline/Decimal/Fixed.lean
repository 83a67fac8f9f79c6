import ArtifactPipeline.Decimal.Shortest

/-!
# Fixed numbers of places

Writing a floating-point number with a given number of places behind the point. The exact value is
rounded to the nearest decimal, a tie to the even digit.
-/

namespace ArtifactPipeline.Decimal

/-- The quotient rounded to the nearest integer, a half to the even neighbour. -/
def divRound (num den : Nat) : Nat :=
  let q := num / den
  let r := num % den
  if 2 * r > den || (2 * r == den && q % 2 == 1) then q + 1 else q

/-- A number with `places` digits behind the point. -/
def fixed (places : Nat) (x : Float) : String :=
  let sign := if isNegative x then "-" else ""
  match shape x with
  | .nan => "NaN"
  | .infinite => sign ++ "inf"
  | .finite m =>
    let num := m.mantissa * Nat.pow 2 m.exponent.toNat * Nat.pow 10 places
    let den := Nat.pow 2 (-m.exponent).toNat
    sign ++ String.ofList (Scaled.positional ⟨divRound num den, -(places : Int)⟩)

end ArtifactPipeline.Decimal
