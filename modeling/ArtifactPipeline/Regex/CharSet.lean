import ArtifactPipeline.Text.Case

/-!
# Sets of characters

The character sets that a pattern is built from. A set is kept as ranges that increase and do not
touch, so equal sets have equal descriptions.
-/

namespace ArtifactPipeline.Regex

open Text

/-- A set of characters. -/
structure CharSet where
  ranges : Ranges
  deriving Repr, DecidableEq

namespace CharSet

/-- Whether a character belongs to the set. -/
def mem (s : CharSet) (c : Char) : Bool := s.ranges.contains c.toNat

/-- The set without members. -/
def empty : CharSet := ⟨[]⟩

/-- The code points from `low` to `high`. -/
def range (low high : Nat) : CharSet := ⟨.ofList [(low, high)]⟩

/-- The set of one character. -/
def single (c : Char) : CharSet := range c.toNat c.toNat

/-- The set of all characters. -/
def all : CharSet := range 0 maxCodePoint

/-- The set of the given characters. -/
def ofList (cs : List Char) : CharSet := ⟨.ofList (cs.map fun c => (c.toNat, c.toNat))⟩

/-- The set that a rule describes. -/
def ofFormula (f : Formula) : CharSet := ⟨f.toRanges⟩

/-- White space. -/
def whitespace : CharSet := ⟨whitespaceRanges⟩

/-- Word characters. -/
def word : CharSet := ⟨wordRanges⟩

/-- Decimal digits. -/
def digit : CharSet := ⟨decimalDigitRanges⟩

/-- The characters of either set. -/
def union (a b : CharSet) : CharSet := ⟨a.ranges.union b.ranges⟩

/-- The characters of both sets. -/
def inter (a b : CharSet) : CharSet := ⟨a.ranges.inter b.ranges⟩

/-- The members of `a` that are not in `b`. -/
def diff (a b : CharSet) : CharSet := ⟨a.ranges.diff b.ranges⟩

/-- The characters that are in exactly one of two sets. -/
def symmDiff (a b : CharSet) : CharSet := ⟨a.ranges.symmDiff b.ranges⟩

/-- All other characters. -/
def compl (a : CharSet) : CharSet := ⟨a.ranges.compl⟩

/-- The characters that some member equals under simple case folding. -/
def folded (a : CharSet) : CharSet := ⟨a.ranges.folded⟩

/-- The characters that some member equals when the case of ASCII letters is ignored. -/
def asciiFolded (a : CharSet) : CharSet := ⟨a.ranges.asciiFolded⟩

/-- The only member, if there is exactly one. -/
def onlyMember? (a : CharSet) : Option Char :=
  match a.ranges with
  | [(low, high)] => if low = high then some (Char.ofNat low) else none
  | _ => none

/-- Whether all members are ASCII characters. -/
def isAscii (a : CharSet) : Bool := a.ranges.all fun (_, high) => high < 0x80

end CharSet

end ArtifactPipeline.Regex
