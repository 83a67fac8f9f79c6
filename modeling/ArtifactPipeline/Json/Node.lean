import ArtifactPipeline.Json.Number
import ArtifactPipeline.Text.Hex

/-!
# JSON text

The reader for JSON text. It is strict about the grammar and yields the structure of the text. The
value of a number and the pairing of surrogates are decided only where a text is used, so a member
that nobody asks for may hold a number of any size or half a surrogate pair.
-/

namespace ArtifactPipeline.Json

open Text

/-- What a text says. A string is `none` if its escapes hold an unpaired surrogate. -/
inductive Node where
  | null
  | bool (b : Bool)
  | num (n : Numeral)
  | str (s : Option String)
  | arr (items : List Node)
  | obj (members : List (Option String × Node))
  deriving Repr, Inhabited

/-- A piece of a written string: a character or a hexadecimal escape. -/
inductive Piece where
  | char (c : Char)
  | unit (n : Nat)
  deriving Repr, DecidableEq

/-- The text of the pieces of a string. Escapes for the halves of a surrogate pair stand for one
character together. -/
def textOfPieces? : List Piece → Option (List Char)
  | [] => some []
  | .char c :: rest => (textOfPieces? rest).map (c :: ·)
  | .unit high :: .unit low :: rest =>
    if 0xD800 ≤ high && high ≤ 0xDBFF then
      if 0xDC00 ≤ low && low ≤ 0xDFFF then
        (textOfPieces? rest).map
          (Char.ofNat (0x10000 + (high - 0xD800) * 0x400 + (low - 0xDC00)) :: ·)
      else none
    else if 0xDC00 ≤ high && high ≤ 0xDFFF then none
    else (textOfPieces? (.unit low :: rest)).map (Char.ofNat high :: ·)
  | .unit n :: rest =>
    if 0xD800 ≤ n && n ≤ 0xDFFF then none else (textOfPieces? rest).map (Char.ofNat n :: ·)

/-- The character that a one-letter escape stands for. -/
def simpleEscape? : Char → Option Char
  | '"' => some '"'
  | '\\' => some '\\'
  | '/' => some '/'
  | 'b' => some '\x08'
  | 'f' => some '\x0c'
  | 'n' => some '\n'
  | 'r' => some '\r'
  | 't' => some '\t'
  | _ => none

/-- Reads a string after its opening quote. `read` holds the pieces read so far in reverse. -/
def readPieces (read : List Piece) : List Char → Option (List Piece × List Char)
  | [] => none
  | '"' :: rest => some (read.reverse, rest)
  | '\\' :: 'u' :: a :: b :: c :: d :: rest =>
    match hexNumber? [a, b, c, d] with
    | some n => readPieces (.unit n :: read) rest
    | none => none
  | '\\' :: c :: rest =>
    match simpleEscape? c with
    | some c => readPieces (.char c :: read) rest
    | none => none
  | c :: rest => if c.toNat < 0x20 || c == '\\' then none else readPieces (.char c :: read) rest

/-- Reads a string after its opening quote. -/
def readString (cs : List Char) : Option (Option String × List Char) := do
  let (pieces, rest) ← readPieces [] cs
  return ((textOfPieces? pieces).map String.ofList, rest)

/-- Whether a character is blank between the parts of a JSON text. -/
def isBlank (c : Char) : Bool :=
  c == ' ' || c == '\n' || c == '\t' || c == '\r'

/-- Drops blanks. -/
def dropBlanks (cs : List Char) : List Char := cs.dropWhile isBlank

/-- Reads digits, of which there must be at least one. -/
def readDigits (cs : List Char) : Option (List Char × List Char) :=
  let digits := cs.takeWhile isAsciiDigit
  if digits.isEmpty then none else some (digits, cs.dropWhile isAsciiDigit)

/-- Reads the exponent of a number, if there is one. -/
def readExponent (cs : List Char) : Option (Option (Bool × List Char) × List Char) :=
  match cs with
  | c :: rest =>
    if c == 'e' || c == 'E' then
      let (down, rest) := match rest with
        | '-' :: rest => (true, rest)
        | '+' :: rest => (false, rest)
        | _ => (false, rest)
      (readDigits rest).map fun (digits, rest) => (some (down, digits), rest)
    else some (none, cs)
  | [] => some (none, [])

/-- Reads a number. A leading zero must be the only digit before the point. -/
def readNumeral (cs : List Char) : Option (Numeral × List Char) := do
  let (negative, cs) := match cs with
    | '-' :: rest => (true, rest)
    | _ => (false, cs)
  let (whole, rest) ← readDigits cs
  if whole.head? == some '0' && whole.length > 1 then none
  let (fraction, rest) ← match rest with
    | '.' :: rest => readDigits rest
    | _ => some ([], rest)
  let (exponent, rest) ← readExponent rest
  return (⟨negative, whole, fraction, exponent⟩, rest)

mutual

/-- Reads a value after blanks. -/
def readNode : (fuel : Nat) → List Char → Option (Node × List Char)
  | 0, _ => none
  | fuel + 1, cs =>
    match dropBlanks cs with
    | '\x7b' :: rest =>
      match dropBlanks rest with
      | '\x7d' :: rest => some (.obj [], rest)
      | rest => (readMembers fuel [] rest).map fun (members, rest) => (.obj members, rest)
    | '[' :: rest =>
      match dropBlanks rest with
      | ']' :: rest => some (.arr [], rest)
      | rest => (readItems fuel [] rest).map fun (items, rest) => (.arr items, rest)
    | '"' :: rest => (readString rest).map fun (s, rest) => (.str s, rest)
    | 't' :: 'r' :: 'u' :: 'e' :: rest => some (.bool true, rest)
    | 'f' :: 'a' :: 'l' :: 's' :: 'e' :: rest => some (.bool false, rest)
    | 'n' :: 'u' :: 'l' :: 'l' :: rest => some (.null, rest)
    | cs => (readNumeral cs).map fun (n, rest) => (.num n, rest)

/-- Reads the items of an array up to its closing bracket. `read` holds the items read so far in
reverse. -/
def readItems : (fuel : Nat) → List Node → List Char → Option (List Node × List Char)
  | 0, _, _ => none
  | fuel + 1, read, cs =>
    match readNode fuel cs with
    | none => none
    | some (item, rest) =>
      match dropBlanks rest with
      | ',' :: rest => readItems fuel (item :: read) rest
      | ']' :: rest => some ((item :: read).reverse, rest)
      | _ => none

/-- Reads the members of an object up to its closing brace. `read` holds the members read so far in
reverse. -/
def readMembers : (fuel : Nat) → List (Option String × Node) → List Char →
    Option (List (Option String × Node) × List Char)
  | 0, _, _ => none
  | fuel + 1, read, cs =>
    match dropBlanks cs with
    | '"' :: rest =>
      match readString rest with
      | none => none
      | some (name, rest) =>
        match dropBlanks rest with
        | ':' :: rest =>
          match readNode fuel rest with
          | none => none
          | some (node, rest) =>
            match dropBlanks rest with
            | ',' :: rest => readMembers fuel ((name, node) :: read) rest
            | '\x7d' :: rest => some (((name, node) :: read).reverse, rest)
            | _ => none
        | _ => none
    | _ => none

end

/-- Reads a text that consists of one value. -/
def Node.parse (cs : List Char) : Option Node :=
  match readNode (2 * cs.length + 2) cs with
  | some (node, rest) => if (dropBlanks rest).isEmpty then some node else none
  | none => none

end ArtifactPipeline.Json
