import ArtifactPipeline.Text.Hex

/-!
# Ranges of code points

A set of characters given by inclusive ranges of code points with the operations of set algebra,
and runs of a case mapping. Both have a compact written form, in which the tables of character
properties are kept.
-/

namespace ArtifactPipeline.Text

/-- Inclusive ranges of code points in increasing order. The surrogates are no characters, so a
range may run across them. -/
abbrev Ranges := List (Nat × Nat)

/-- The largest code point. -/
def maxCodePoint : Nat := 0x10FFFF

namespace Ranges

/-- Whether a code point lies in one of the ranges. The ranges increase, so the search ends at the
first range that starts above the code point. -/
def contains : Ranges → Nat → Bool
  | [], _ => false
  | (low, high) :: rest, n => if n < low then false else n ≤ high || contains rest n

/-- The code point after `n`, surrogates left out. -/
def after (n : Nat) : Nat := if n = 0xD7FF then 0xE000 else n + 1

/-- The code point before `n`, surrogates left out. -/
def before (n : Nat) : Nat := if n = 0xE000 then 0xD7FF else n - 1

/-- Joins the range `low` to `high` with the ranges that overlap or touch it, then these with each
other, where lower ends do not decrease. -/
def joinFrom (low high : Nat) : Ranges → Ranges
  | [] => [(low, high)]
  | (low', high') :: rest =>
    if low' ≤ after high then joinFrom low (max high high') rest
    else (low, high) :: joinFrom low' high' rest

/-- Joins ranges that overlap or touch, where lower ends do not decrease. -/
def join : Ranges → Ranges
  | [] => []
  | (low, high) :: rest => joinFrom low high rest

/-- The set of the given ranges, in any order. -/
def ofList (ranges : List (Nat × Nat)) : Ranges :=
  join ((ranges.filter fun (low, high) => low ≤ high).mergeSort fun a b => a.1 ≤ b.1)

/-- The code points of either set. -/
def union (a b : Ranges) : Ranges :=
  join (List.merge a b fun x y => x.1 ≤ y.1)

/-- The code points from `start` on that the ranges leave out. -/
def gapsFrom (start : Nat) : Ranges → Ranges
  | [] => if start ≤ maxCodePoint then [(start, maxCodePoint)] else []
  | (low, high) :: rest =>
    if start < low then (start, before low) :: gapsFrom (after high) rest
    else gapsFrom (after high) rest

/-- The code points that a set leaves out. -/
def compl (a : Ranges) : Ranges := gapsFrom 0 a

/-- The code points of both sets. -/
def inter (a b : Ranges) : Ranges := compl (union (compl a) (compl b))

/-- The code points of the first set that are not in the second. -/
def diff (a b : Ranges) : Ranges := inter a (compl b)

/-- The code points of exactly one of two sets. -/
def symmDiff (a b : Ranges) : Ranges := diff (union a b) (inter a b)

/-- How many code points the ranges have, surrogates counted as well. -/
def count (a : Ranges) : Nat := a.foldl (fun n (low, high) => n + (high + 1 - low)) 0

end Ranges

/-- The pieces of a text between occurrences of a separator. -/
def splitOn (separator : Char) : List Char → List (List Char)
  | [] => [[]]
  | c :: rest =>
    match splitOn separator rest with
    | [] => [[c]]
    | piece :: pieces =>
      if c = separator then [] :: piece :: pieces else (c :: piece) :: pieces

/-- The pieces of a text between blanks and line breaks. -/
def words (text : String) : List (List Char) :=
  ((splitOn '\n' text.toList).flatMap (splitOn ' ')).filter (!·.isEmpty)

/-- Reads `low-high` or a single code point, in hexadecimal. -/
def rangeOfText (text : List Char) : Nat × Nat :=
  match splitOn '-' text with
  | [low, high] => ((hexNumber? low).getD 0, (hexNumber? high).getD 0)
  | _ => ((hexNumber? text).getD 0, (hexNumber? text).getD 0)

/-- The code points from `low` to `high` at the distance `stride`, each as a range. -/
def stridedRanges (low high stride : Nat) : Ranges :=
  (List.range ((high - low) / stride + 1)).map fun i => (low + i * stride, low + i * stride)

/-- Reads a range, or `low-high/stride` for single code points at a fixed distance. -/
def rangesOfText (text : List Char) : Ranges :=
  match splitOn '/' text with
  | [range, stride] =>
    let (low, high) := rangeOfText range
    stridedRanges low high ((hexNumber? stride).getD 1)
  | _ => [rangeOfText text]

/-- Reads ranges. -/
def Ranges.ofText (text : String) : Ranges :=
  (words text).flatMap rangesOfText

/-- Consecutive code points, or every second one, whose images keep the same distance. -/
structure CaseRun where
  first : Nat
  last : Nat
  stride : Nat
  /-- The image of `first`. -/
  image : Nat
  deriving Repr, DecidableEq

namespace CaseRun

/-- Whether the run maps this code point. -/
def covers (run : CaseRun) (n : Nat) : Bool :=
  run.first ≤ n && n ≤ run.last && (n - run.first) % run.stride == 0

/-- The image of a code point that the run covers. -/
def apply (run : CaseRun) (n : Nat) : Nat :=
  run.image + (n - run.first)

/-- The code points of the run, each with its image. -/
def pairs (run : CaseRun) : List (Nat × Nat) :=
  (stridedRanges run.first run.last run.stride).map fun (n, _) => (n, run.apply n)

/-- Reads `first-last/stride>image`, where the last code point and the stride may be left out. -/
def ofText (text : List Char) : CaseRun :=
  match splitOn '>' text with
  | [source, image] =>
    let (range, stride) := match splitOn '/' source with
      | [range, stride] => (range, (hexNumber? stride).getD 1)
      | _ => (source, 1)
    let (first, last) := rangeOfText range
    ⟨first, last, stride, (hexNumber? image).getD 0⟩
  | _ => ⟨1, 0, 1, 0⟩

/-- Reads runs. -/
def listOfText (text : String) : List CaseRun :=
  (words text).map ofText

end CaseRun

end ArtifactPipeline.Text
