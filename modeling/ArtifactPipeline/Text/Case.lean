import ArtifactPipeline.Text.Class
import ArtifactPipeline.Text.Table.Case

/-!
# Lower case and case folding

Lower-casing of whole texts, with the two forms of the lower-case sigma, and the sets of characters
that are equal under simple case folding.
-/

namespace ArtifactPipeline.Text

/-- The image of a code point under a mapping given by runs; code points outside stay. -/
def applyRuns (runs : List CaseRun) (n : Nat) : Nat :=
  match runs.find? (·.covers n) with
  | some run => run.apply n
  | none => n

/-- The lower-case form of an ASCII character. -/
def asciiLower (c : Char) : Char :=
  if 'A' ≤ c && c ≤ 'Z' then Char.ofNat (c.toNat + 32) else c

/-- The lower-case form of one character, without regard to its neighbours. Only the capital I with
a dot has two characters. -/
def lowercaseChar (c : Char) : List Char :=
  if c.toNat < 0x80 then [asciiLower c]
  else if c = 'İ' then ['i', '\u0307']
  else [Char.ofNat (applyRuns Table.lowercaseRuns c.toNat)]

/-- The code points of cased letters. -/
def casedRanges : Ranges :=
  ((Formula.cased.diff (.ranges Table.formerlyCased)).union (.ranges Table.recentCased)).toRanges

/-- The code points that are ignored when a neighbouring cased letter is looked for. -/
def caseIgnorableRanges : Ranges :=
  (Formula.caseIgnorable.union (.ranges Table.recentCaseIgnorable)).toRanges

/-- Whether a character is a cased letter. -/
def isCased (c : Char) : Bool :=
  casedRanges.contains c.toNat

/-- Whether a character is ignored when a neighbouring cased letter is looked for. -/
def isCaseIgnorable (c : Char) : Bool :=
  caseIgnorableRanges.contains c.toNat

/-- Whether the first character that is not ignored is cased. -/
def startsCased (cs : List Char) : Bool :=
  (cs.dropWhile isCaseIgnorable).head?.any isCased

/-- Lower-cases the rest of a text, given what precedes it in reverse order. A capital sigma that
ends a word becomes the final form. -/
def lowercaseAfter (before : List Char) : List Char → List Char
  | [] => []
  | c :: rest =>
    let image :=
      if c = 'Σ' then if startsCased before && !startsCased rest then ['ς'] else ['σ']
      else lowercaseChar c
    image ++ lowercaseAfter (c :: before) rest

/-- The lower-case form of a text. -/
def lowercase (cs : List Char) : List Char :=
  lowercaseAfter [] cs

/-- Every code point that simple case folding changes, with its image. -/
def foldingPairs : List (Nat × Nat) := Table.foldingRuns.flatMap (·.pairs)

/-- The code points that some member of a set equals under simple case folding: the members, the
images of characters that are members or have a member as image, and all that have one of these
images. -/
def Ranges.folded (a : Ranges) : Ranges :=
  let touched := foldingPairs.filter fun (n, image) => a.contains n || a.contains image
  let images := Ranges.ofList (touched.map fun (_, image) => (image, image))
  let sources := foldingPairs.filter fun (_, image) => images.contains image
  a.union (images.union (.ofList (sources.map fun (n, _) => (n, n))))

/-- The code points that some member of a set equals when the case of ASCII letters is ignored. -/
def Ranges.asciiFolded (a : Ranges) : Ranges :=
  let letters := Formula.toRanges (.ranges "41-5A 61-7A")
  let shift := fun (n : Nat) => if n < 0x61 then n + 32 else n - 32
  let touched := (List.range 0x80).filter fun n => letters.contains n && a.contains n
  a.union (.ofList (touched.map fun n => (shift n, shift n)))

end ArtifactPipeline.Text
