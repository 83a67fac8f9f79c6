import ArtifactPipeline.Regex.CharSet
import ArtifactPipeline.Text.Segment
import ArtifactPipeline.Text.Table.Age

/-!
# Named character properties

Which sets of characters the names inside `\p{…}` stand for: general categories, scripts, binary
properties, ages and segmentation classes. Names are compared without case, blanks, hyphens,
underscores and characters outside ASCII.
-/

namespace ArtifactPipeline.Regex.Property

open Text

/-- The lower-case ASCII characters of a name, less blanks, hyphens and underscores. -/
def plainName (name : List Char) : List Char :=
  (name.filter fun c => c.toNat < 0x80 && !(c == ' ' || c == '_' || c == '-')).map asciiLower

/-- The form in which names are compared. A leading `is` is left out. -/
def normalize (name : List Char) : String :=
  match name with
  | i :: s :: rest =>
    if asciiLower i == 'i' && asciiLower s == 's' then
      let plain := plainName rest
      String.ofList (if plain == ['c'] then ['i', 's', 'c'] else plain)
    else String.ofList (plainName name)
  | _ => String.ofList (plainName name)

/-- Names of the general categories, and the two-letter categories that each comprises. -/
def categoryNames : List (List String × List String) := [
  (["lu", "uppercaseletter"], ["Lu"]),
  (["ll", "lowercaseletter"], ["Ll"]),
  (["lt", "titlecaseletter"], ["Lt"]),
  (["lc", "casedletter"], ["Lu", "Ll", "Lt"]),
  (["lm", "modifierletter"], ["Lm"]),
  (["lo", "otherletter"], ["Lo"]),
  (["l", "letter"], ["Lu", "Ll", "Lt", "Lm", "Lo"]),
  (["mn", "nonspacingmark"], ["Mn"]),
  (["mc", "spacingmark"], ["Mc"]),
  (["me", "enclosingmark"], ["Me"]),
  (["m", "mark", "combiningmark"], ["Mn", "Mc", "Me"]),
  (["nd", "decimalnumber", "digit"], ["Nd"]),
  (["nl", "letternumber"], ["Nl"]),
  (["no", "othernumber"], ["No"]),
  (["n", "number"], ["Nd", "Nl", "No"]),
  (["pc", "connectorpunctuation"], ["Pc"]),
  (["pd", "dashpunctuation"], ["Pd"]),
  (["ps", "openpunctuation"], ["Ps"]),
  (["pe", "closepunctuation"], ["Pe"]),
  (["pi", "initialpunctuation"], ["Pi"]),
  (["pf", "finalpunctuation"], ["Pf"]),
  (["po", "otherpunctuation"], ["Po"]),
  (["p", "punctuation", "punct"], ["Pc", "Pd", "Ps", "Pe", "Pi", "Pf", "Po"]),
  (["sm", "mathsymbol"], ["Sm"]),
  (["sc", "currencysymbol"], ["Sc"]),
  (["sk", "modifiersymbol"], ["Sk"]),
  (["so", "othersymbol"], ["So"]),
  (["s", "symbol"], ["Sm", "Sc", "Sk", "So"]),
  (["zs", "spaceseparator"], ["Zs"]),
  (["zl", "lineseparator"], ["Zl"]),
  (["zp", "paragraphseparator"], ["Zp"]),
  (["z", "separator"], ["Zs", "Zl", "Zp"]),
  (["cc", "control", "cntrl"], ["Cc"]),
  (["cf", "format"], ["Cf"]),
  (["co", "privateuse"], ["Co"])]

/-- The rule for a general category by its normalised name. -/
def generalCategory? (name : String) : Option Formula :=
  match name with
  | "any" => some (.ranges "0-10FFFF")
  | "ascii" => some (.ranges "0-7F")
  | "assigned" => some .assigned
  | "cn" | "unassigned" => some (.compl .assigned)
  | "c" | "other" =>
    some (.union (.compl .assigned) (.categories ["Cc", "Cf", "Co"]))
  | _ => (categoryNames.find? (·.1.contains name)).map fun entry => .categories entry.2

/-- The rule for a script by its normalised long or short name. -/
def script? (name : String) : Option Formula :=
  if Table.scripts.any (·.1.contains name) then some (.scripts [name]) else none

/-- The rule for the characters that a script uses: its own, unless other scripts use them too and
it does not, and those that it shares. -/
def scriptExtension? (name : String) : Option Formula :=
  (Table.scripts.find? (·.1.contains name)).map fun (names, _) =>
    let uses := fun (entry : String × String) =>
      (words entry.1).any fun short => names.contains (String.ofList short)
    let (shared, foreign) := Table.scriptExtensions.partition uses
    .union (.diff (.scripts [name]) (.unions (foreign.map fun entry => .ranges entry.2)))
      (.unions (shared.map fun entry => .ranges entry.2))

/-- The binary properties that are not listed, by their names. -/
def derivedProperties : List (List String × Formula) := [
  (["alphabetic", "alpha"], .alphabetic),
  (["caseignorable", "ci"], .caseIgnorable),
  (["cased"], .cased),
  (["changeswhencasefolded", "cwcf"], .changesWhenCasefolded),
  (["changeswhencasemapped", "cwcm"], .changesWhenCasemapped),
  (["changeswhentitlecased", "cwt"], .changesWhenTitlecased),
  (["defaultignorablecodepoint", "di"], .defaultIgnorable),
  (["graphemebase", "grbase"], .graphemeBase),
  (["graphemeextend", "grext"], .graphemeExtend),
  (["idcontinue", "idc"], .idContinue),
  (["idstart", "ids"], .idStart),
  (["lowercase", "lower"], .lowercase),
  (["math"], .math),
  (["uppercase", "upper"], .uppercase),
  (["xidcontinue", "xidc"], .xidContinue),
  (["xidstart", "xids"], .xidStart)]

/-- The rule for a binary property by its normalised name. -/
def binary? (name : String) : Option Formula :=
  if Table.listedProperties.any (·.1.contains name) then some (.listed name)
  else (derivedProperties.find? (·.1.contains name)).map (·.2)

/-- The rule for the characters that are as old as the given version or older. A version is written
with a point or, after the letter `v`, without the underscore that stands for it. -/
def age? (name : String) : Option Formula :=
  let matchesName := fun (entry : String × String) =>
    entry.1 == name || String.ofList ('v' :: entry.1.toList.filter (· != '.')) == name
  match Table.ages.findIdx? matchesName with
  | some i => some (.unions ((Table.ages.take (i + 1)).map fun entry => .ranges entry.2))
  | none => none

/-- The rule for a segmentation class by its normalised name. -/
def segment? (classes : List Segment.NamedClass) (name : String) : Option Formula :=
  (classes.find? (·.1.contains name)).map (·.2)

/-- The set that a lone name stands for: a binary property, a general category or a script. -/
def byName? (name : List Char) : Option CharSet :=
  let name := normalize name
  ((binary? name).or ((generalCategory? name).or (script? name))).map CharSet.ofFormula

/-- The set of the characters for which the named property has the named value. -/
def byValue? (property value : List Char) : Option CharSet :=
  let value := normalize value
  let rule := match normalize property with
    | "generalcategory" | "gc" => generalCategory? value
    | "script" | "sc" => script? value
    | "scriptextensions" | "scx" => scriptExtension? value
    | "age" => age? value
    | "graphemeclusterbreak" | "gcb" => segment? Segment.graphemeCluster value
    | "wordbreak" | "wb" => segment? Segment.word value
    | "sentencebreak" | "sb" => segment? Segment.sentence value
    | _ => none
  rule.map CharSet.ofFormula

end ArtifactPipeline.Regex.Property
