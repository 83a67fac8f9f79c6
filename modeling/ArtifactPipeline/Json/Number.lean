import ArtifactPipeline.Text.Class

/-!
# Numbers in JSON text

A number is kept as it is written until a reader asks for its value. Whole numbers of up to 64 bits
keep their exact value. All others become double-precision numbers: the digits that fit 64 bits,
scaled by a power of ten.
-/

namespace ArtifactPipeline.Json

/-- The parts of a written number. -/
structure Numeral where
  negative : Bool
  /-- The digits before the point. -/
  whole : List Char
  /-- The digits behind the point; empty if there is no point. -/
  fraction : List Char := []
  /-- The sign and the digits of the exponent. -/
  exponent : Option (Bool × List Char) := none
  deriving Repr, DecidableEq

/-- The value of a number. -/
inductive Number where
  | int (n : Int)
  | float (x : Float)
  deriving Repr

namespace Numeral

/-- The greatest unsigned number of 64 bits. -/
def maxUnsigned : Nat := Nat.pow 2 64 - 1

/-- The value of a decimal digit. -/
def digitValue (c : Char) : Nat := c.toNat - 48

/-- Appends digits to a number while it stays within 64 bits. The result is the number, how many
digits were appended and the digits left over. -/
def accumulate : (n : Nat) → (taken : Nat) → List Char → Nat × Nat × List Char
  | n, taken, [] => (n, taken, [])
  | n, taken, c :: rest =>
    if n * 10 + digitValue c ≤ maxUnsigned then
      accumulate (n * 10 + digitValue c) (taken + 1) rest
    else (n, taken, c :: rest)

/-- The power of ten with a natural exponent, to the nearest double-precision number. -/
def powerOfTen (n : Nat) : Float := Float.ofScientific 1 false n

/-- Multiplies a number by `10 ^ exponent`, dividing by at most `10 ^ 308` at a time. The result is
`none` if it is too large. -/
def scale (x : Float) (exponent : Int) : (fuel : Nat) → Option Float
  | 0 => some 0
  | fuel + 1 =>
    if exponent.natAbs ≤ 308 then
      if 0 ≤ exponent then
        let y := x * powerOfTen exponent.toNat
        if y.isInf then none else some y
      else some (x / powerOfTen exponent.natAbs)
    else if x == 0 then some x
    else if 0 ≤ exponent then none
    else scale (x / powerOfTen 308) (exponent + 308) fuel

/-- The value of the digits of an exponent; `none` beyond 31 bits. -/
def exponentValue? (digits : List Char) : Option Nat :=
  digits.foldl (fun n c => do
    let n := (← n) * 10 + digitValue c
    if n < Nat.pow 2 31 then some n else none) (some 0)

/-- The value of a numeral as a double-precision number; `none` if it is too large. -/
def toFloat? (numeral : Numeral) : Option Float :=
  let (whole, _, extra) := accumulate 0 0 numeral.whole
  let (significand, places, _) := accumulate whole 0 numeral.fraction
  let (down, power) := match numeral.exponent with
    | some (down, digits) => (down, exponentValue? digits)
    | none => (false, some 0)
  let size := match power with
    | none => if significand != 0 && !down then none else some 0
    | some power =>
      let start : Int := extra.length - places
      let exponent : Int := if down then start - power else start + power
      scale (Float.ofNat significand) exponent (exponent.natAbs / 308 + 2)
  size.map fun x => if numeral.negative then -x else x

/-- The value of a numeral. Without a point and an exponent it is an integer if it fits 64 bits,
where minus zero is no integer. -/
def value? (numeral : Numeral) : Option Number :=
  let (n, _, extra) := accumulate 0 0 numeral.whole
  if numeral.fraction.isEmpty && numeral.exponent.isNone && extra.isEmpty then
    if !numeral.negative then some (.int n)
    else if n == 0 || n > Nat.pow 2 63 then some (.float (-(Float.ofNat n)))
    else some (.int (-(n : Int)))
  else numeral.toFloat?.map .float

end Numeral

end ArtifactPipeline.Json
