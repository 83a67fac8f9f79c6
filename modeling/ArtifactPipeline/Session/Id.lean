import ArtifactPipeline.Text.Hex

/-!
# Session identifiers

A session is identified by a number of 128 bits, written as a UUID: five groups of lower-case
hexadecimal digits joined by hyphens.
-/

namespace ArtifactPipeline

open Text

/-- The identifier of a session. -/
structure SessionId where
  value : Nat
  deriving Repr, DecidableEq, Inhabited

namespace SessionId

/-- The hyphenated form of 32 hexadecimal digits. -/
def hyphenate (digits : List Char) : List Char :=
  digits.take 8 ++ '-' :: (digits.drop 8).take 4 ++ '-' :: (digits.drop 12).take 4 ++
    '-' :: (digits.drop 16).take 4 ++ '-' :: digits.drop 20

/-- The text of an identifier. -/
def toText (id : SessionId) : String :=
  String.ofList (hyphenate (hexDigits 32 id.value))

/-- The identifier that 128 random bits make: six of them are replaced by marks which say that the
others are random. -/
def ofRandom (bits : Nat) : SessionId :=
  let low := bits % Nat.pow 2 62
  let middle := bits / Nat.pow 2 64 % Nat.pow 2 12
  let high := bits / Nat.pow 2 80 % Nat.pow 2 48
  ⟨high * Nat.pow 2 80 + 4 * Nat.pow 2 76 + middle * Nat.pow 2 64 + 2 * Nat.pow 2 62 + low⟩

/-- Reads 32 hexadecimal digits. -/
def ofDigits? (digits : List Char) : Option SessionId :=
  if digits.length = 32 then (hexNumber? digits).map (⟨·⟩) else none

/-- Reads the hyphenated form. -/
def ofHyphenated? (cs : List Char) : Option SessionId :=
  let digits := cs.filter (· != '-')
  if cs == hyphenate digits then ofDigits? digits else none

/-- Reads an identifier: plain digits, or the hyphenated form by itself, in braces or after
`urn:uuid:`. -/
def ofText? (text : String) : Option SessionId :=
  let cs := text.toList
  match cs.length with
  | 32 => ofDigits? cs
  | 36 => ofHyphenated? cs
  | 38 =>
    if cs.head? == some '\x7b' && cs.getLast? == some '\x7d' then
      ofHyphenated? ((cs.drop 1).take 36)
    else none
  | 45 =>
    if "urn:uuid:".toList.isPrefixOf cs then ofHyphenated? (cs.drop 9) else none
  | _ => none

end SessionId

end ArtifactPipeline
