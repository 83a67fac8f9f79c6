import ArtifactPipeline.Text.Table.Category
import ArtifactPipeline.Text.Table.Property
import ArtifactPipeline.Text.Table.Script

/-!
# Character properties

The properties of Unicode 16. Some are listed, the others are put together from general categories,
scripts and listed properties by the rules of the standard: a `Formula` is such a rule and
`Formula.ranges` the set that it describes.
-/

namespace ArtifactPipeline.Text

/-- The rule that describes a set of characters. -/
inductive Formula where
  /-- The given ranges, in their written form. -/
  | ranges (text : String)
  /-- The union of the given general categories. -/
  | categories (names : List String)
  /-- The union of the given scripts. -/
  | scripts (names : List String)
  /-- A listed property by one of its names. -/
  | listed (name : String)
  | union (a b : Formula)
  | inter (a b : Formula)
  | diff (a b : Formula)
  | compl (a : Formula)
  deriving Repr, DecidableEq

namespace Formula

/-- The union of the tables whose name passes a test. -/
def unionWhere {Name : Type} (tables : List (Name × String)) (test : Name → Bool) : Ranges :=
  .ofList ((tables.filter fun (name, _) => test name).flatMap fun (_, text) => Ranges.ofText text)

/-- The set that a rule describes. -/
def toRanges : Formula → Ranges
  | .ranges text => .ofList (Ranges.ofText text)
  | categories names => unionWhere Table.generalCategories (names.contains ·)
  | scripts names => unionWhere Table.scripts fun known => names.any (known.contains ·)
  | listed name => unionWhere Table.listedProperties (·.contains name)
  | union a b => a.toRanges.union b.toRanges
  | inter a b => a.toRanges.inter b.toRanges
  | diff a b => a.toRanges.diff b.toRanges
  | compl a => a.toRanges.compl

/-- The union of several sets. -/
def unions : List Formula → Formula
  | [] => .ranges ""
  | [a] => a
  | a :: rest => .union a (unions rest)

/-- Letters. -/
def letter : Formula := .categories ["Lu", "Ll", "Lt", "Lm", "Lo"]

/-- Code points that are assigned a character. -/
def assigned : Formula := .categories (Table.generalCategories.map (·.1))

/-- The property `Alphabetic`: letters, letter numbers and what is listed besides. -/
def alphabetic : Formula := unions [letter, .categories ["Nl"], .listed "otheralphabetic"]

/-- The property `Lowercase`. -/
def lowercase : Formula := .union (.categories ["Ll"]) (.listed "otherlowercase")

/-- The property `Uppercase`. -/
def uppercase : Formula := .union (.categories ["Lu"]) (.listed "otheruppercase")

/-- The property `Math`. -/
def math : Formula := .union (.categories ["Sm"]) (.listed "othermath")

/-- Characters with a case, title case among them. -/
def cased : Formula := unions [lowercase, uppercase, .categories ["Lt"]]

/-- Characters that may stand between the letters of a word. -/
def midWord : Formula := .ranges
  "27 2E 3A B7 387 55F 5F4 2018-2019 2024 2027 FE13 FE52 FE55 FF07 FF0E FF1A"

/-- Characters to be ignored when a neighbouring cased letter is looked for. -/
def caseIgnorable : Formula := .union (.categories ["Mn", "Me", "Cf", "Lm", "Sk"]) midWord

/-- Characters reserved for the syntax of patterns. -/
def patternCharacter : Formula := .union (.listed "patternsyntax") (.listed "patternwhitespace")

/-- The property `ID_Start`: what an identifier may begin with. -/
def idStart : Formula :=
  .diff (unions [letter, .categories ["Nl"], .listed "otheridstart"]) patternCharacter

/-- The property `ID_Continue`: what an identifier may go on with. -/
def idContinue : Formula :=
  unions [idStart,
    .diff (.union (.categories ["Mn", "Mc", "Nd", "Pc"]) (.listed "otheridcontinue"))
      patternCharacter]

/-- Characters of identifiers that compatibility normalisation takes apart. -/
def unstableIdentifier : Formula := .ranges
  "37A 309B-309C FC5E-FC63 FDFA-FDFB FE70-FE7E/2"

/-- The property `XID_Start`, which is closed under normalization. -/
def xidStart : Formula := .diff idStart (.union unstableIdentifier (.ranges "E33 EB3 FF9E-FF9F"))

/-- The property `XID_Continue`, which is closed under normalization. -/
def xidContinue : Formula := .diff idContinue unstableIdentifier

/-- The property `Default_Ignorable_Code_Point`: what is not shown if it is not supported. -/
def defaultIgnorable : Formula :=
  .union (.listed "otherdefaultignorablecodepoint")
    (.diff (.union (.categories ["Cf"]) (.listed "variationselector"))
      (unions [.listed "whitespace", .ranges "FFF9-FFFB 13430-1345F",
        .listed "prependedconcatenationmark"]))

/-- The property `Grapheme_Extend`: what goes on with the cluster before it. -/
def graphemeExtend : Formula := .union (.categories ["Mn", "Me"]) (.listed "othergraphemeextend")

/-- The property `Grapheme_Base`: what a cluster may begin with. -/
def graphemeBase : Formula :=
  .diff assigned (.union (.categories ["Cc", "Cf", "Co", "Zl", "Zp"]) graphemeExtend)

/-- The property `Changes_When_Titlecased`, from the one for upper case and where the two
differ. -/
def changesWhenTitlecased : Formula :=
  .union
    (.diff (.listed "changeswhenuppercased")
      (.ranges "1C5 1C8 1CB 1F2 10D0-10FA 10FD-10FF 1F88-1F8F 1F98-1F9F 1FA8-1FAF 1FBC 1FCC 1FFC"))
    (.ranges "1C4 1C7 1CA 1F1")

/-- The property `Changes_When_Casefolded`, from the one for lower case and where the two
differ. -/
def changesWhenCasefolded : Formula :=
  .union (.diff (.listed "changeswhenlowercased") (.ranges "13A0-13F5"))
    (.ranges
      "B5 DF 149 17F 345 3C2 3D0-3D1 3D5-3D6 3F0-3F1 3F5 587 13F8-13FD 1C80-1C88 1E9A-1E9B
      1F80-1F87 1F90-1F97 1FA0-1FA7 1FB2-1FB4 1FB7 1FC2-1FC4 1FC7 1FF2-1FF4 1FF7 AB70-ABBF
      FB00-FB06 FB13-FB17")

/-- The property `Changes_When_Casemapped`: a change in any of the three cases. -/
def changesWhenCasemapped : Formula :=
  unions [.listed "changeswhenlowercased", .listed "changeswhenuppercased", changesWhenTitlecased]

/-- Letters, marks, decimal digits, connector punctuation and join controls: what a word is made
of. -/
def word : Formula :=
  unions [alphabetic, .categories ["Mn", "Mc", "Me", "Nd", "Pc"], .listed "joincontrol"]

end Formula

end ArtifactPipeline.Text
