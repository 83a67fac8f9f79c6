import ArtifactPipeline.Text.Class
import ArtifactPipeline.Text.Hex
import ArtifactPipeline.Time.Instant
import ArtifactPipeline.Toml.Value

/-!
# Numbers, truth values and dates

The TOML values that are written as one word without quotes.
-/

namespace ArtifactPipeline.Toml

open Text

/-- The digits of a word in which an underscore may stand between two digits. -/
def readGrouped (isDigit : Char → Bool) : List Char → Option (List Char)
  | [] => none
  | [c] => if isDigit c then some [c] else none
  | c :: '_' :: rest => if isDigit c then (readGrouped isDigit rest).map (c :: ·) else none
  | c :: rest => if isDigit c then (readGrouped isDigit rest).map (c :: ·) else none

/-- The number that digits denote. -/
def numberOf (base : Nat) (digits : List Char) : Nat :=
  digits.foldl (fun n c => n * base + (hexValue? c).getD 0) 0

/-- A number with digits of some base. -/
def readBased (base : Nat) (isDigit : Char → Bool) (cs : List Char) : Option Nat :=
  (readGrouped isDigit cs).map (numberOf base)

/-- Decimal digits without a superfluous zero in front. -/
def readDecimal (cs : List Char) : Option (List Char) :=
  (readGrouped isAsciiDigit cs).bind fun digits =>
    if digits.head? == some '0' && digits.length > 1 then none else some digits

/-- A sign and what follows it. -/
def splitSign : List Char → Bool × List Char
  | '-' :: rest => (true, rest)
  | '+' :: rest => (false, rest)
  | cs => (false, cs)

/-- An integer in one of four bases. -/
def readInt : List Char → Option Int
  | '0' :: 'x' :: rest => (readBased 16 (fun c => (hexValue? c).isSome) rest).map Int.ofNat
  | '0' :: 'o' :: rest => (readBased 8 (fun c => '0' ≤ c && c ≤ '7') rest).map Int.ofNat
  | '0' :: 'b' :: rest => (readBased 2 (fun c => c == '0' || c == '1') rest).map Int.ofNat
  | cs =>
    let (negative, rest) := splitSign cs
    (readDecimal rest).map fun digits =>
      let n : Int := numberOf 10 digits
      if negative then -n else n

/-- The value of an integer, which can be held in 128 bits with or without a sign. -/
def ofInt (n : Int) : Value := if fitsBits 128 n then .int n else .excess

/-- The exponent of a number, which may have zeros in front. -/
def readExponent (cs : List Char) : Option Int :=
  let (negative, rest) := splitSign cs
  (readBased 10 isAsciiDigit rest).map fun n => if negative then -(n : Int) else n

/-- The double-precision number nearest to `digits * 10 ^ exponent`. -/
def nearestFloat (digits : Nat) (exponent : Int) : Float :=
  if digits == 0 || exponent < -400 - 20 * digits.log2 then 0.0
  else if exponent > 400 then 1.0 / 0.0
  else if exponent < 0 then Float.ofScientific digits true exponent.natAbs
  else Float.ofScientific digits false exponent.natAbs

/-- A number with a fraction, an exponent or both, or one of the two special numbers. -/
def readFloat (cs : List Char) : Option Value := do
  let (negative, rest) := splitSign cs
  let signed (x : Float) := if negative then -x else x
  if rest == ['i', 'n', 'f'] then return .float (signed (1.0 / 0.0))
  if rest == ['n', 'a', 'n'] then return .float (0.0 / 0.0)
  let isMark (c : Char) := c == 'e' || c == 'E'
  let (number, power) := rest.span fun c => !isMark c
  let (whole, fraction) := number.span (· != '.')
  if fraction.isEmpty && power.isEmpty then none
  let digits ← readDecimal whole
  let places ← if fraction.isEmpty then some [] else readGrouped isAsciiDigit (fraction.drop 1)
  let exponent ← if power.isEmpty then some 0 else readExponent (power.drop 1)
  let x := nearestFloat (numberOf 10 (digits ++ places)) (exponent - places.length)
  return if x.isInf then .excess else .float (signed x)

/-- The number that two digits denote. -/
def readTwo : List Char → Option Nat
  | [a, b] => if isAsciiDigit a && isAsciiDigit b then some (numberOf 10 [a, b]) else none
  | _ => none

/-- Whether a word is a date. -/
def isDate (cs : List Char) : Bool :=
  let year := cs.take 4
  year.all isAsciiDigit && cs.length == 10 && cs[4]? == some '-' && cs[7]? == some '-' &&
    match readTwo ((cs.drop 5).take 2), readTwo (cs.drop 8) with
    | some month, some day => (Time.Date.mk (numberOf 10 year) month day).isValid
    | _, _ => false

/-- Whether a word is a fraction of a second or nothing. -/
def isFraction : List Char → Bool
  | [] => true
  | '.' :: rest => !rest.isEmpty && rest.all isAsciiDigit
  | _ => false

/-- Whether a word is a time of day. The seconds may be missing. -/
def isTime (cs : List Char) : Bool :=
  let clock := (readTwo (cs.take 2)).any (· < 24) && cs[2]? == some ':' &&
    (readTwo ((cs.drop 3).take 2)).any (· < 60)
  let rest := cs.drop 5
  clock && (rest.isEmpty ||
    (rest.head? == some ':' && (readTwo ((rest.drop 1).take 2)).any (· < 61) &&
      isFraction (rest.drop 3)))

/-- Whether a word is the distance from UTC. -/
def isOffset : List Char → Bool
  | ['Z'] | ['z'] => true
  | c :: rest =>
    (c == '+' || c == '-') && rest.length == 5 && (readTwo (rest.take 2)).any (· < 24) &&
      rest[2]? == some ':' && (readTwo (rest.drop 3)).any (· < 60)
  | [] => false

/-- Whether a word is a time of day with or without the distance from UTC. -/
def isZonedTime (cs : List Char) : Bool :=
  let (time, offset) := cs.span fun c => isAsciiDigit c || c == ':' || c == '.'
  isTime time && (offset.isEmpty || isOffset offset)

/-- Whether a word is a date, a time or both. -/
def isMoment (cs : List Char) : Bool :=
  isTime cs || isDate cs ||
    (isDate (cs.take 10) && (cs[10]?).any (fun c => c == 'T' || c == 't' || c == ' ') &&
      isZonedTime (cs.drop 11))

/-- The value of a word. -/
def readWord (cs : List Char) : Option Value :=
  if cs == ['t', 'r', 'u', 'e'] then some (.bool true)
  else if cs == ['f', 'a', 'l', 's', 'e'] then some (.bool false)
  else
    match readInt cs with
    | some n => some (ofInt n)
    | none =>
      match readFloat cs with
      | some v => some v
      | none => if isMoment cs then some .moment else none

end ArtifactPipeline.Toml
