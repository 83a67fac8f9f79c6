import ArtifactPipeline.Text.Property

/-!
# Segmentation classes

The classes of characters by which Unicode 16 finds the boundaries of grapheme clusters, words and
sentences.
-/

namespace ArtifactPipeline.Text.Segment

open Formula

/-- A class with its normalised names and the rule for its characters. -/
abbrev NamedClass := List String × Formula

/-- Spacing marks that do not belong to the cluster before them. -/
def detachedSpacingMark : Formula := .ranges
  "102B-102C 1038 1062-1064 1067-106D 1083 1087-108C 108F 109A-109C 1A61 1A63-1A64 AA7B AA7D
  11720-11721"

/-- The Hangul syllables without a final consonant. -/
def openSyllable : Formula := .ranges "AC00-D788/1C"

/-- The classes for grapheme clusters. -/
def graphemeCluster : List NamedClass := [
  (["cr"], .ranges "D"),
  (["lf"], .ranges "A"),
  (["control", "cn"],
    .diff (.union (.categories ["Zl", "Zp", "Cc", "Cf"]) (.diff defaultIgnorable assigned))
      (unions [graphemeExtend, .listed "prependedconcatenationmark", .ranges "A D 200D"])),
  (["extend", "ex"], .union graphemeExtend (.listed "emojimodifier")),
  (["zwj"], .ranges "200D"),
  (["regionalindicator", "ri"], .listed "regionalindicator"),
  (["prepend", "pp"],
    .union (.listed "prependedconcatenationmark")
      (.ranges "D4E 111C2-111C3 113D1 1193F 11941 11A84-11A89 11D46 11F02")),
  (["spacingmark", "sm"],
    .union (.diff (.categories ["Mc"]) (.union graphemeExtend detachedSpacingMark))
      (.ranges "E33 EB3")),
  (["l"], .ranges "1100-115F A960-A97C"),
  (["v"], .ranges "1160-11A7 D7B0-D7C6 16D63 16D67-16D6A"),
  (["t"], .ranges "11A8-11FF D7CB-D7FB"),
  (["lv"], openSyllable),
  (["lvt"], .diff (.ranges "AC00-D7A3") openSyllable)]

/-- What extends the character before it in a word. -/
def wordExtend : Formula :=
  unions [graphemeExtend, .categories ["Mc"], .listed "emojimodifier"]

/-- Format characters that stand before a number. -/
def numberSign : Formula := .ranges "600-605 6DD 890-891 8E2 110BD 110CD"

/-- The class `Numeric` of words. -/
def wordNumeric : Formula := unions [.categories ["Nd"], numberSign, .ranges "66B 19DA"]

/-- The class `Katakana` of words. -/
def katakana : Formula :=
  .union (.scripts ["katakana"]) (.ranges "3031-3035 309B-309C 30A0 30FC FF70")

/-- The class `Hebrew_Letter` of words. -/
def hebrewLetter : Formula := .inter (.scripts ["hebrew"]) (.categories ["Lo"])

/-- Scripts that are written without blanks between words. -/
def unspacedScript : Formula :=
  .scripts ["thai", "lao", "myanmar", "khmer", "taile", "newtailue", "taitham", "taiviet", "ahom"]

/-- Signs that count as letters of a word. -/
def letterLike : Formula := .ranges
  "B8 2C2-2C5 2D2-2D7 2DE-2DF 2E5-2EB 2ED 2EF-2FF 55A-55C 55E 58A 5F3 70F A708-A716 A720-A721
  A789-A78A AB5B"

/-- The classes for words. -/
def word : List NamedClass := [
  (["cr"], .ranges "D"),
  (["lf"], .ranges "A"),
  (["newline", "nl"], .ranges "B-C 85 2028-2029"),
  (["extend"], wordExtend),
  (["zwj"], .ranges "200D"),
  (["format", "fo"],
    .diff (.categories ["Cf"]) (unions [wordExtend, numberSign, .ranges "70F 200B-200D"])),
  (["regionalindicator", "ri"], .listed "regionalindicator"),
  (["katakana", "ka"], katakana),
  (["hebrewletter", "hl"], hebrewLetter),
  (["aletter", "le"],
    .union letterLike
      (.diff alphabetic
        (unions [.listed "ideographic", katakana, wordExtend, hebrewLetter, .scripts ["hiragana"],
          unspacedScript]))),
  (["midletter", "ml"], .ranges "3A B7 387 55F 5F4 2027 FE13 FE55 FF1A"),
  (["midnum", "mn"], .ranges "2C 3B 37E 589 60C-60D 66C 7F8 2044 FE50 FE54 FF0C FF1B"),
  (["midnumlet", "mb"], .ranges "2E 2018-2019 2024 FE52 FF07 FF0E"),
  (["singlequote", "sq"], .ranges "27"),
  (["doublequote", "dq"], .ranges "22"),
  (["numeric", "nu"], wordNumeric),
  (["extendnumlet", "ex"], .union (.categories ["Pc"]) (.ranges "202F")),
  (["wsegspace"], .ranges "20 1680 2000-2006 2008-200A 205F 3000")]

/-- What extends the character before it in a sentence. -/
def sentenceExtend : Formula := unions [graphemeExtend, .categories ["Mc"], .ranges "200D"]

/-- The class `Lower` of sentences. -/
def sentenceLower : Formula :=
  .diff Formula.lowercase (.union sentenceExtend (.ranges "10D0-10FA 10FD-10FF"))

/-- The class `Upper` of sentences, which has the title-case letters too. -/
def sentenceUpper : Formula :=
  .diff (.union Formula.uppercase (.categories ["Lt"])) (.ranges "1C90-1CBA 1CBD-1CBF")

/-- What separates paragraphs of sentences, line breaks apart. -/
def separator : Formula := .ranges "85 2028-2029"

/-- Full stops, which may also end an abbreviation. -/
def fullStop : Formula := .ranges "2E 2024 FE52 FF0E"

/-- The class `STerm` of sentences: what ends one, full stops apart. -/
def sentenceTerminal : Formula := .diff (.listed "sentenceterminal") fullStop

/-- The classes for sentences. -/
def sentence : List NamedClass := [
  (["cr"], .ranges "D"),
  (["lf"], .ranges "A"),
  (["extend", "ex"], sentenceExtend),
  (["sep", "se"], separator),
  (["format", "fo"], .diff (.categories ["Cf"]) (.union sentenceExtend numberSign)),
  (["sp"], .diff (.listed "whitespace") (.union separator (.ranges "A D"))),
  (["lower", "lo"], sentenceLower),
  (["upper", "up"], sentenceUpper),
  (["oletter", "le"],
    .union (.ranges "5F3")
      (.diff alphabetic (unions [sentenceLower, sentenceUpper, sentenceExtend]))),
  (["numeric", "nu"], .union wordNumeric (.ranges "66C")),
  (["aterm", "at"], fullStop),
  (["scontinue", "sc"], .ranges
    "2C-2D 3A-3B 37E 55D 60C-60D 7F8 1802 1808 2013-2014 3001 FE10-FE11 FE13-FE14 FE31-FE32
    FE50-FE51 FE54-FE55 FE58 FE63 FF0C-FF0D FF1A-FF1B FF64"),
  (["sterm", "st"], sentenceTerminal),
  (["close", "cl"],
    .union (.diff (.categories ["Ps", "Pe", "Pi", "Pf"]) sentenceTerminal)
      (.ranges "22 27 275B-2760 2E00-2E01 2E06-2E08 2E0B 1F676-1F678"))]

end ArtifactPipeline.Text.Segment
