/-!
# Binary floating-point numbers as integers

A finite floating-point number is an integer times a power of two. This module takes the two
formats apart, so that decimal forms can be computed with exact integer arithmetic.
-/

namespace ArtifactPipeline.Decimal

/-- The size of a finite number: `mantissa * 2 ^ exponent`. -/
structure Magnitude where
  mantissa : Nat
  exponent : Int
  /-- Whether the next smaller number is only half as far away as the next greater one. -/
  closeBelow : Bool
  deriving Repr, DecidableEq

/-- What a floating-point number is. -/
inductive Shape where
  | nan
  | infinite
  | finite (size : Magnitude)
  deriving Repr, DecidableEq

/-- Takes a number apart from its bits, given the widths of its fields and the exponent that the
smallest normal numbers have for an integer mantissa. -/
def shapeOfBits (mantissaBits exponentBits : Nat) (leastExponent : Int) (bits : Nat) : Shape :=
  let fraction := bits % Nat.pow 2 mantissaBits
  let stored := bits / Nat.pow 2 mantissaBits % Nat.pow 2 exponentBits
  if stored = Nat.pow 2 exponentBits - 1 then
    if fraction = 0 then .infinite else .nan
  else if stored = 0 then .finite ⟨fraction, leastExponent, false⟩
  else
    .finite ⟨fraction + Nat.pow 2 mantissaBits, leastExponent + (stored - 1 : Nat),
      fraction == 0 && stored > 1⟩

/-- The parts of a double-precision number, its sign apart. -/
def shape (x : Float) : Shape :=
  shapeOfBits 52 11 (-1074) x.toBits.toNat

/-- The parts of a single-precision number, its sign apart. -/
def shape32 (x : Float32) : Shape :=
  shapeOfBits 23 8 (-149) x.toBits.toNat

/-- Whether the sign bit is set. -/
def isNegative (x : Float) : Bool :=
  x.toBits.toNat ≥ Nat.pow 2 63

/-- Whether the sign bit is set. -/
def isNegative32 (x : Float32) : Bool :=
  x.toBits.toNat ≥ Nat.pow 2 31

end ArtifactPipeline.Decimal
