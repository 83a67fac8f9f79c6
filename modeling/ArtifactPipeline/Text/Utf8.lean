import ArtifactPipeline.Text.Ranges

/-!
# Ranges in UTF-8

A range of code points as a list of byte patterns: each gives for every byte of an encoding the
range that it may come from. The patterns are in increasing order and no two of them share a text.
-/

namespace ArtifactPipeline.Text.Utf8

/-- A range of bytes. -/
abbrev ByteRange := Nat × Nat

/-- Code points with encodings of the same length, surrogates apart. -/
def lengthClasses : Ranges :=
  [(0, 0x7F), (0x80, 0x7FF), (0x800, 0xD7FF), (0xE000, 0xFFFF), (0x10000, 0x10FFFF)]

/-- The numbers of code points that share all bytes but the last one, two or three. -/
def blockSizes : List Nat := [64, 4096, 262144]

/-- Cuts a range so that each piece lies in one block or is made of whole blocks, for blocks of
every size. -/
def splitBlocks (low high : Nat) : List Nat → Ranges
  | [] => [(low, high)]
  | size :: sizes =>
    if low / size = high / size then [(low, high)]
    else
      let firstWhole := (low + size - 1) / size * size
      let lastWhole := (high + 1) / size * size
      (if low < firstWhole then [(low, firstWhole - 1)] else []) ++
        (if firstWhole < lastWhole then splitBlocks firstWhole (lastWhole - 1) sizes else []) ++
        (if lastWhole ≤ high then [(lastWhole, high)] else [])

/-- The bytes of the encoding of a code point. -/
def encode (n : Nat) : List Nat :=
  (String.utf8EncodeChar (Char.ofNat n)).map (·.toNat)

/-- The patterns of a range. -/
def patterns (low high : Nat) : List (List ByteRange) :=
  (lengthClasses.flatMap fun (first, last) =>
    let low := max low first
    let high := min high last
    if low ≤ high then splitBlocks low high blockSizes else []).map fun (low, high) =>
      (encode low).zip (encode high)

end ArtifactPipeline.Text.Utf8
