import ArtifactPipeline.Decimal.Shortest
import ArtifactPipeline.Text.Hex

/-!
# Writing TOML

The written form of texts and numbers. A text is quoted so that it can be read well: in double
quotes, in single quotes if that avoids escapes, in three quotes if that avoids escapes or if the
text has several lines.
-/

namespace ArtifactPipeline.Toml

open Text

/-- Whether a character can only be written as an escape. -/
def needsEscape (c : Char) : Bool :=
  (c.toNat < 0x20 && c != '\t' && c != '\n') || c.toNat == 0x7F

/-- The length of the longest run of a character. `current` is the length of the run that a text
continues. -/
def longestRun (mark : Char) (current : Nat) : List Char → Nat
  | [] => current
  | c :: rest =>
    if c == mark then longestRun mark (current + 1) rest
    else max current (longestRun mark 0 rest)

/-- The upper-case hexadecimal digits of a number. -/
def upperHexDigits (width n : Nat) : List Char :=
  (hexDigits width n).map fun c => if 'a' ≤ c && c ≤ 'f' then Char.ofNat (c.toNat - 32) else c

/-- The escape of a character other than a quote, if it is escaped between double quotes. -/
def escape? (c : Char) : Option (List Char) :=
  if c == '\x08' then some ['\\', 'b']
  else if c == '\t' then some ['\\', 't']
  else if c == '\n' then some ['\\', 'n']
  else if c == '\x0c' then some ['\\', 'f']
  else if c == '\r' then some ['\\', 'r']
  else if c == '\\' then some ['\\', '\\']
  else if c.toNat < 0x20 || c.toNat == 0x7F then some ('\\' :: 'u' :: upperHexDigits 4 c.toNat)
  else none

/-- The inside of a text in double quotes, in which at most `most` quotes may follow each other as
they are. `quotes` counts those before the rest of the text. In a long text a line break stays. -/
def writeEscaped (long : Bool) (most : Nat) (quotes : Nat) : List Char → List Char
  | [] => []
  | c :: rest =>
    if c == '"' then
      if quotes < most then c :: writeEscaped long most (quotes + 1) rest
      else '\\' :: c :: writeEscaped long most 0 rest
    else if long && c == '\n' then c :: writeEscaped long most 0 rest
    else
      match escape? c with
      | some escaped => escaped ++ writeEscaped long most 0 rest
      | none => c :: writeEscaped long most 0 rest

/-- A text in double quotes. -/
def writeBasic (s : List Char) : List Char := '"' :: writeEscaped false 0 0 s ++ ['"']

/-- A text in single quotes. -/
def writeLiteral (s : List Char) : List Char := '\'' :: s ++ ['\'']

/-- The line break after the opening quotes of a text with several lines. -/
def firstBreak (s : List Char) : List Char := if s.contains '\n' then ['\n'] else []

/-- A text in three double quotes. -/
def writeLongBasic (s : List Char) : List Char :=
  ['"', '"', '"'] ++ firstBreak s ++ writeEscaped true 2 0 s ++ ['"', '"', '"']

/-- A text in three single quotes. -/
def writeLongLiteral (s : List Char) : List Char :=
  ['\'', '\'', '\''] ++ firstBreak s ++ s ++ ['\'', '\'', '\'']

/-- The written form of a text. -/
def writeText (s : List Char) : List Char :=
  let escapes := s.any needsEscape
  let lines := s.contains '\n'
  let doubles := longestRun '"' 0 s
  let singles := longestRun '\'' 0 s
  if !escapes && !s.contains '\\' && doubles == 0 && !lines then writeBasic s
  else if !escapes && singles == 0 && !lines then writeLiteral s
  else if !escapes && !s.contains '\\' && doubles ≤ 2 then writeLongBasic s
  else if !escapes && singles ≤ 2 then writeLongLiteral s
  else if lines then writeLongBasic s
  else writeBasic s

/-- The written form of a single-precision number: the shortest decimal that reads back, without an
exponent and with at least one place behind the point. A tie goes away from zero. -/
def writeFloat32 (x : Float32) : List Char :=
  let sign := if Decimal.isNegative32 x then ['-'] else []
  match Decimal.shape32 x with
  | .nan => ['n', 'a', 'n']
  | .infinite => sign ++ ['i', 'n', 'f']
  | .finite m =>
    let digits := if m.mantissa == 0 then ['0'] else (m.shortest .larger).positional
    sign ++ (if digits.contains '.' then digits else digits ++ ['.', '0'])

/-- The written form of an integer that is not negative. -/
def writeNat (n : Nat) : List Char := Decimal.digitsOf n

end ArtifactPipeline.Toml
