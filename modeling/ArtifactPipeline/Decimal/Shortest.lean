import ArtifactPipeline.Decimal.Binary

/-!
# Shortest decimals

The decimal with the fewest digits that still reads back as a given floating-point number. A number
owns the interval of reals that round to it. For each power of ten, from large to small, the two
multiples next to the number are tested against that interval, and the first hit is taken. Of two
hits the nearer is taken, and a format says which of two that are equally near.
-/

namespace ArtifactPipeline.Decimal

/-- The number `digits * 10 ^ exponent`. -/
structure Scaled where
  digits : Nat
  exponent : Int
  deriving Repr, DecidableEq

/-- Which of two decimals is taken that are equally near. -/
inductive Tie where
  | larger
  | even
  deriving Repr, DecidableEq

/-- The interval of reals that round to a number, with a common denominator. -/
structure Interval where
  low : Nat
  value : Nat
  high : Nat
  denominator : Nat
  /-- Whether the ends belong to the interval. -/
  closed : Bool

/-- The interval of a magnitude. Its ends lie halfway to the neighbours and belong to it iff the
mantissa is even. -/
def Magnitude.interval (m : Magnitude) : Interval :=
  let scale := Nat.pow 2 m.exponent.toNat
  { low := (4 * m.mantissa - (if m.closeBelow then 1 else 2)) * scale
    value := 4 * m.mantissa * scale
    high := (4 * m.mantissa + 2) * scale
    denominator := 4 * Nat.pow 2 (-m.exponent).toNat
    closed := m.mantissa % 2 == 0 }

namespace Interval

/-- Whether `n * 10 ^ p` lies in the interval. -/
def holds (i : Interval) (n : Nat) (p : Int) : Bool :=
  let point := n * Nat.pow 10 p.toNat * i.denominator
  let shift := Nat.pow 10 (-p).toNat
  if i.closed then i.low * shift ≤ point && point ≤ i.high * shift
  else i.low * shift < point && point < i.high * shift

/-- Whether `below * den` is taken for `num` rather than the next multiple of `den`. -/
def prefersBelow (tie : Tie) (num den below : Nat) : Bool :=
  let twice := 2 * (num - below * den)
  twice < den || (twice == den && tie == .even && below % 2 == 0)

/-- Tests the multiples of `10 ^ p` next to the number, then those of smaller powers of ten. -/
def shortestFrom (tie : Tie) (i : Interval) : (steps : Nat) → (p : Int) → Scaled
  | 0, p => ⟨i.value * Nat.pow 10 (-p).toNat / (i.denominator * Nat.pow 10 p.toNat), p⟩
  | steps + 1, p =>
    let num := i.value * Nat.pow 10 (-p).toNat
    let den := i.denominator * Nat.pow 10 p.toNat
    let below := num / den
    let belowHits := below != 0 && i.holds below p
    let aboveHits := i.holds (below + 1) p
    if belowHits && (!aboveHits || prefersBelow tie num den below) then ⟨below, p⟩
    else if aboveHits then ⟨below + 1, p⟩
    else shortestFrom tie i steps (p - 1)

end Interval

/-- The shortest decimal of a magnitude that is not zero. -/
def Magnitude.shortest (tie : Tie) (m : Magnitude) : Scaled :=
  let bits : Int := m.exponent + (Nat.log2 m.mantissa : Int)
  m.interval.shortestFrom tie 24 (bits * 30103 / 100000 + 2)

/-- The decimal digits of a number. -/
def digitsOf (n : Nat) : List Char :=
  Nat.toDigits 10 n

/-- Writes a decimal without an exponent. A whole number has no point. -/
def Scaled.positional (d : Scaled) : List Char :=
  let digits := digitsOf d.digits
  if 0 ≤ d.exponent then digits ++ List.replicate d.exponent.toNat '0'
  else
    let places := (-d.exponent).toNat
    let padded := List.replicate (places + 1 - digits.length) '0' ++ digits
    padded.take (padded.length - places) ++ '.' :: padded.drop (padded.length - places)

/-- Writes a decimal with at least one place behind the point, and with an exponent outside of
`10 ^ -5` to `10 ^ 16`. -/
def Scaled.scientific (d : Scaled) : List Char :=
  let digits := digitsOf d.digits
  let point := d.exponent + digits.length
  if 0 ≤ d.exponent && point ≤ 16 then d.positional ++ ['.', '0']
  else if -5 < point && point ≤ 16 then d.positional
  else
    let power := (toString (point - 1)).toList
    match digits with
    | [] => power
    | [digit] => digit :: 'e' :: power
    | digit :: more => digit :: '.' :: more ++ 'e' :: power

end ArtifactPipeline.Decimal
