import ArtifactPipeline.Text.Class

/-!
# Searching and cutting text

Operations on texts as lists of characters: finding and replacing a fixed text, trimming white
space, joining, counting lines and naming the place of a character by line and column.
-/

namespace ArtifactPipeline.Text

/-- The number of characters before the first occurrence of a text. -/
def indexOf? (needle : List Char) : List Char → Option Nat
  | [] => if needle.isEmpty then some 0 else none
  | c :: rest =>
    if needle.isPrefixOf (c :: rest) then some 0 else (indexOf? needle rest).map (· + 1)

/-- Whether a text occurs in another. -/
def occursIn (needle text : List Char) : Bool :=
  (indexOf? needle text).isSome

/-- Replaces every occurrence of `needle`, from left to right and without overlaps. The first
argument counts the characters of the occurrence just replaced that are still to be skipped. -/
def replaceSkipping (needle replacement : List Char) : (skip : Nat) → List Char → List Char
  | _, [] => []
  | skip + 1, _ :: rest => replaceSkipping needle replacement skip rest
  | 0, c :: rest =>
    if needle.isPrefixOf (c :: rest) then
      replacement ++ replaceSkipping needle replacement (needle.length - 1) rest
    else c :: replaceSkipping needle replacement 0 rest

/-- Replaces every occurrence of a non-empty text. -/
def replaceAll (needle replacement text : List Char) : List Char :=
  replaceSkipping needle replacement 0 text

/-- Drops white space at the end. -/
def trimEnd (cs : List Char) : List Char :=
  (cs.reverse.dropWhile isWhitespace).reverse

/-- Drops white space at both ends. -/
def trim (cs : List Char) : List Char :=
  trimEnd (cs.dropWhile isWhitespace)

/-- Writes texts one after another with a separator between neighbours. -/
def join (separator : String) : List String → String
  | [] => ""
  | [text] => text
  | text :: texts => text ++ separator ++ join separator texts

/-- The number of lines. A line ends with a newline or with the text; an empty rest after the last
newline is no line. -/
def lineCount (cs : List Char) : Nat :=
  cs.count '\n' + (if cs.getLast?.all (· == '\n') then 0 else 1)

/-- The one-based line and column of the place that a text leads up to. -/
def location (before : List Char) : Nat × Nat :=
  (before.count '\n' + 1, (before.reverse.takeWhile (· != '\n')).length + 1)

end ArtifactPipeline.Text
