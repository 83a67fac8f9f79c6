import ArtifactPipeline.Text.Property
import ArtifactPipeline.Text.Table.Recent

/-!
# Character classes

White space, word characters, decimal digits and letters over all of Unicode. ASCII characters are
decided by comparisons, all others by table. Words and digits are those of Unicode 16, letters and
numbers those of Unicode 17.
-/

namespace ArtifactPipeline.Text

/-- The code points with the property `White_Space`. -/
def whitespaceRanges : Ranges :=
  [(0x09, 0x0D), (0x20, 0x20), (0x85, 0x85), (0xA0, 0xA0), (0x1680, 0x1680), (0x2000, 0x200A),
   (0x2028, 0x2029), (0x202F, 0x202F), (0x205F, 0x205F), (0x3000, 0x3000)]

/-- Whether a character is white space in the sense of Unicode. -/
def isWhitespace (c : Char) : Bool :=
  whitespaceRanges.contains c.toNat

/-- Whether a character is an ASCII letter. -/
def isAsciiLetter (c : Char) : Bool :=
  ('a' ≤ c && c ≤ 'z') || ('A' ≤ c && c ≤ 'Z')

/-- Whether a character is an ASCII digit. -/
def isAsciiDigit (c : Char) : Bool :=
  '0' ≤ c && c ≤ '9'

/-- Whether a character is an ASCII letter, digit or underscore. -/
def isAsciiWord (c : Char) : Bool :=
  isAsciiLetter c || isAsciiDigit c || c == '_'

/-- The code points of word characters. -/
def wordRanges : Ranges := Formula.word.toRanges

/-- The code points of decimal digits. -/
def decimalDigitRanges : Ranges := (Formula.categories ["Nd"]).toRanges

/-- The code points of alphabetic characters. -/
def alphabeticRanges : Ranges :=
  (Formula.alphabetic.union (.ranges Table.recentAlphabetic)).toRanges

/-- The code points of numeric characters. -/
def numericRanges : Ranges :=
  ((Formula.categories ["Nd", "Nl", "No"]).union (.ranges Table.recentNumeric)).toRanges

/-- Whether a character may be part of a word. -/
def isWord (c : Char) : Bool :=
  if c.toNat < 0x80 then isAsciiWord c else wordRanges.contains c.toNat

/-- Whether a character is alphabetic. -/
def isAlphabetic (c : Char) : Bool :=
  if c.toNat < 0x80 then isAsciiLetter c else alphabeticRanges.contains c.toNat

/-- Whether a character is alphabetic or numeric. -/
def isAlphanumeric (c : Char) : Bool :=
  isAlphabetic c || (if c.toNat < 0x80 then isAsciiDigit c else numericRanges.contains c.toNat)

end ArtifactPipeline.Text
