import ArtifactPipeline.Text.Ranges

/-!
# What Unicode 17 adds

The characters that have a property in Unicode 17 and did not have it in Unicode 16.
-/

namespace ArtifactPipeline.Text.Table

/-- Alphabetic characters. -/
def recentAlphabetic : String :=
  "88F C5C CDC A7CE-A7CF A7D2 A7D4 A7F1 10940-10959 10EC5-10EC7 10EFA-10EFB 11B60-11B67 11DB0-11DDB
  16EA0-16EB8 16EBB-16ED3 16FF2-16FF6 187F8-187FF 18D09-18D1E 18D80-18DF2 1E6C0-1E6DE 1E6E0-1E6F5
  1E6FE-1E6FF 2B73A-2B73F 2CEA2-2CEAD 323B0-33479"

/-- Numeric characters. -/
def recentNumeric : String :=
  "11DE0-11DE9 16FF4-16FF6"

/-- Cased letters. -/
def recentCased : String :=
  "A7CE-A7CF A7D2 A7D4 A7F1 16EA0-16EB8 16EBB-16ED3"

/-- Letters that have no case any more. -/
def formerlyCased : String :=
  "295"

/-- Characters to be ignored when a neighbouring cased letter is looked for. -/
def recentCaseIgnorable : String :=
  "1ACF-1ADD 1AE0-1AEB A7F1 10EC5 10EFA-10EFB 11B60 11B62-11B64 11B66 11DD9 16FF2-16FF3 1E6E3 1E6E6
  1E6EE-1E6EF 1E6F5 1E6FF"

end ArtifactPipeline.Text.Table
