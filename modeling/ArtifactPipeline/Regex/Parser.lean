import ArtifactPipeline.Regex.Normal
import ArtifactPipeline.Regex.Property
import ArtifactPipeline.Text.Search

/-!
# Reading patterns

The reader for pattern text: literals, escapes, classes with set operations, groups, flags,
assertions and repetitions. Look-around, back references and possessive or atomic groups do not
exist in this syntax. Flags are applied while reading, so the result is a plain `Regex`.
-/

namespace ArtifactPipeline.Regex

open Text

/-- Why a text is no pattern. -/
inductive SyntaxError where
  | unclosedGroup
  | unopenedGroup
  | unclosedClass
  | emptyRange
  | classMember
  | danglingEscape
  | unknownEscape
  | backReference
  | hexDigits
  | codePoint
  | unknownProperty
  | boundaryName
  | lookAround
  | flag
  | groupName
  | duplicateName
  | nothingToRepeat
  | repetitionCount
  /-- An element that needs Unicode mode stands where that mode is off. -/
  | unicodeOff
  /-- An element would match a part of a character. -/
  | partOfCharacter
  | tooDeep
  deriving Repr, DecidableEq

/-- The flags in force at some place of a pattern. -/
structure Flags where
  caseless : Bool := false
  multiLine : Bool := false
  dotAll : Bool := false
  swapGreed : Bool := false
  ignoreSpace : Bool := false
  crlf : Bool := false
  unicode : Bool := true
  deriving Repr, DecidableEq

/-- What is still to be read, and what is known from what has been read. -/
structure Reading where
  rest : List Char
  flags : Flags := {}
  /-- How many groups have been opened. -/
  groups : Nat := 0
  names : List (List Char) := []

/-- A part of a pattern with the depth of its nesting. -/
structure Piece where
  regex : Regex
  depth : Nat := 0

/-- Drops white space and comments, which run from `#` to the end of the line. -/
def dropBlank : (inComment : Bool) → List Char → List Char
  | _, [] => []
  | true, c :: rest => dropBlank (c != '\n') rest
  | false, c :: rest =>
    if isWhitespace c then dropBlank false rest
    else if c == '#' then dropBlank true rest
    else c :: rest

/-- Drops what the flags say is to be ignored. -/
def Flags.skip (flags : Flags) (cs : List Char) : List Char :=
  if flags.ignoreSpace then dropBlank false cs else cs

/-- Continues with another rest. -/
def Reading.at (reading : Reading) (rest : List Char) : Reading :=
  { reading with rest }

/-! ## Single characters and classes -/

/-- A set with the case folding that the flags ask for. -/
def Flags.foldSet (flags : Flags) (s : CharSet) : CharSet :=
  if !flags.caseless then s else if flags.unicode then s.folded else s.asciiFolded

/-- The complement of a set, if it is wanted. Where Unicode mode is off the characters stand for
bytes, and the complement would hold parts of characters. -/
def Flags.negateSet (flags : Flags) (negated : Bool) (s : CharSet) : Except SyntaxError CharSet :=
  if !negated then .ok s else if flags.unicode then .ok s.compl else .error .partOfCharacter

/-- The expression for one literal character. -/
def Flags.literal (flags : Flags) (c : Char) : Regex :=
  ofSet (flags.foldSet (.single c))

/-- The set of any character that `.` stands for. -/
def Flags.dot (flags : Flags) : Except SyntaxError Regex :=
  if !flags.unicode then .error .partOfCharacter
  else if flags.dotAll then .ok (.set .all)
  else if flags.crlf then .ok (.set (CharSet.ofList ['\n', '\r']).compl)
  else .ok (.set (CharSet.single '\n').compl)

/-- The assertion that `^` stands for. -/
def Flags.caret (flags : Flags) : Look :=
  if !flags.multiLine then .textStart else if flags.crlf then .lineStartCrlf else .lineStart

/-- The assertion that `$` stands for. -/
def Flags.dollar (flags : Flags) : Look :=
  if !flags.multiLine then .textEnd else if flags.crlf then .lineEndCrlf else .lineEnd

/-- The set of `\d`, `\s` or `\w`. -/
def Flags.shorthand (flags : Flags) : Char → CharSet
  | 'd' => if flags.unicode then .digit else .range 0x30 0x39
  | 's' => if flags.unicode then .whitespace else ⟨[(0x09, 0x0D), (0x20, 0x20)]⟩
  | _ =>
    if flags.unicode then .word
    else ⟨[(0x30, 0x39), (0x41, 0x5A), (0x5F, 0x5F), (0x61, 0x7A)]⟩

/-- The sets that may be named inside a class as `[:name:]`. -/
def asciiClass? (name : List Char) : Option CharSet :=
  match String.ofList name with
  | "alnum" => some ⟨[(0x30, 0x39), (0x41, 0x5A), (0x61, 0x7A)]⟩
  | "alpha" => some ⟨[(0x41, 0x5A), (0x61, 0x7A)]⟩
  | "ascii" => some ⟨[(0, 0x7F)]⟩
  | "blank" => some ⟨[(0x09, 0x09), (0x20, 0x20)]⟩
  | "cntrl" => some ⟨[(0, 0x1F), (0x7F, 0x7F)]⟩
  | "digit" => some ⟨[(0x30, 0x39)]⟩
  | "graph" => some ⟨[(0x21, 0x7E)]⟩
  | "lower" => some ⟨[(0x61, 0x7A)]⟩
  | "print" => some ⟨[(0x20, 0x7E)]⟩
  | "punct" => some ⟨[(0x21, 0x2F), (0x3A, 0x40), (0x5B, 0x60), (0x7B, 0x7E)]⟩
  | "space" => some ⟨[(0x09, 0x0D), (0x20, 0x20)]⟩
  | "upper" => some ⟨[(0x41, 0x5A)]⟩
  | "word" => some ⟨[(0x30, 0x39), (0x41, 0x5A), (0x5F, 0x5F), (0x61, 0x7A)]⟩
  | "xdigit" => some ⟨[(0x30, 0x39), (0x41, 0x46), (0x61, 0x66)]⟩
  | _ => none

/-- Whether a character has a meaning of its own in patterns. -/
def isMeta (c : Char) : Bool :=
  ['\\', '.', '+', '*', '?', '(', ')', '|', '[', ']', '\x7b', '\x7d', '^', '$', '#', '&', '-',
    '~'].contains c

/-- Whether a backslash may stand before a character without need. -/
def isEscapable (c : Char) : Bool :=
  isMeta c || (c.toNat < 0x80 && !isAsciiLetter c && !isAsciiDigit c && c != '<' && c != '>')

/-- What an escape or a plain character stands for. -/
inductive Atom where
  /-- One character; `byte` marks the two-digit hexadecimal form. -/
  | literal (c : Char) (byte : Bool)
  | look (l : Look)
  /-- `\d`, `\s`, `\w` and their negations. -/
  | shorthand (name : Char) (negated : Bool)
  /-- A named property. -/
  | property (s : CharSet) (negated : Bool)

/-! ## Escapes -/

/-- The character with the given hexadecimal code. -/
def charOfHex (digits : List Char) : Except SyntaxError Char :=
  match hexNumber? digits with
  | none => .error .hexDigits
  | some n => if n.isValidChar then .ok (Char.ofNat n) else .error .codePoint

/-- Reads `count` hexadecimal digits, between which the flags may allow blanks. -/
def takeHex (flags : Flags) : (count : Nat) → List Char → Except SyntaxError (List Char × List Char)
  | 0, cs => .ok ([], cs)
  | _ + 1, [] => .error .danglingEscape
  | count + 1, c :: rest =>
    if (hexValue? c).isNone then .error .hexDigits
    else do
      let (digits, rest) ← takeHex flags count (flags.skip rest)
      return (c :: digits, rest)

/-- Reads up to a closing brace and hands over what lies before it, less ignored blanks. -/
def takeBraced (flags : Flags) :
    (fuel : Nat) → List Char → Except SyntaxError (List Char × List Char)
  | 0, _ => .error .danglingEscape
  | fuel + 1, cs =>
    match flags.skip cs with
    | [] => .error .danglingEscape
    | '\x7d' :: rest => .ok ([], rest)
    | c :: rest => do
      let (inside, rest) ← takeBraced flags fuel rest
      return (c :: inside, rest)

/-- Reads the code after `\x`, `\u` or `\U`. -/
def readHexEscape (flags : Flags) (kind : Char) (cs : List Char) :
    Except SyntaxError (Atom × List Char) := do
  match flags.skip cs with
  | [] => throw .danglingEscape
  | '\x7b' :: rest =>
    let (digits, rest) ← takeBraced flags (rest.length + 1) rest
    if digits.any (hexValue? · |>.isNone) then throw .hexDigits
    if digits.isEmpty then throw .hexDigits
    return (.literal (← charOfHex digits) false, flags.skip rest)
  | cs =>
    let count := if kind == 'x' then 2 else if kind == 'u' then 4 else 8
    let (digits, rest) ← takeHex flags count cs
    return (.literal (← charOfHex digits) (kind == 'x'), rest)

/-- Splits a text at the first occurrence of another. -/
def splitAtText (separator cs : List Char) : Option (List Char × List Char) :=
  (indexOf? separator cs).map fun i => (cs.take i, cs.drop (i + separator.length))

/-- The set and polarity of the text between the braces of a property. -/
def propertyOfName (name : List Char) : Except SyntaxError (CharSet × Bool) :=
  let found := match splitAtText ['!', '='] name with
    | some (property, value) => (Property.byValue? property value).map (·, true)
    | none =>
      match (splitAtText [':'] name).or (splitAtText ['='] name) with
      | some (property, value) => (Property.byValue? property value).map (·, false)
      | none => (Property.byName? name).map (·, false)
  match found with
  | some result => .ok result
  | none => .error .unknownProperty

/-- Reads the name after `\p` or `\P`. -/
def readProperty (flags : Flags) (negated : Bool) (cs : List Char) :
    Except SyntaxError (Atom × List Char) := do
  match flags.skip cs with
  | [] => throw .danglingEscape
  | '\x7b' :: rest =>
    let (name, rest) ← takeBraced flags (rest.length + 1) rest
    if !flags.unicode then throw .unicodeOff
    let (s, inverse) ← propertyOfName name
    return (.property s (negated != inverse), rest)
  | '\\' :: _ => throw .unknownProperty
  | c :: rest =>
    if !flags.unicode then throw .unicodeOff
    match Property.byName? [c] with
    | some s => return (.property s negated, flags.skip rest)
    | none => throw .unknownProperty

/-- The assertions named inside `\b{…}`, in Unicode mode and outside it. -/
def boundary? (unicode : Bool) (name : List Char) : Option Look :=
  match String.ofList name with
  | "start" => some (if unicode then .wordStart else .asciiWordStart)
  | "end" => some (if unicode then .wordEnd else .asciiWordEnd)
  | "start-half" => some (if unicode then .wordStartHalf else .asciiWordStartHalf)
  | "end-half" => some (if unicode then .wordEndHalf else .asciiWordEndHalf)
  | _ => none

/-- Whether a character may stand in the name of a boundary. -/
def isBoundaryName (c : Char) : Bool := isAsciiLetter c || c == '-'

/-- Reads the letters and hyphens of a boundary's name, less ignored blanks. -/
def takeBoundaryName (flags : Flags) : (fuel : Nat) → List Char → List Char × List Char
  | fuel + 1, c :: rest =>
    if isBoundaryName c then
      let (name, rest) := takeBoundaryName flags fuel (flags.skip rest)
      (c :: name, rest)
    else ([], c :: rest)
  | _, cs => ([], cs)

/-- Reads what follows `\b`: a brace that opens a name, or anything else, which is left alone. -/
def readBoundary (flags : Flags) (cs : List Char) : Except SyntaxError (Atom × List Char) := do
  let plain : Look := if flags.unicode then .wordBoundary else .asciiWordBoundary
  match cs with
  | '\x7b' :: rest =>
    match flags.skip rest with
    | [] => throw .boundaryName
    | c :: inside =>
      if !isBoundaryName c then return (.look plain, cs)
      let (name, rest) := takeBoundaryName flags (inside.length + 1) (c :: inside)
      match rest, boundary? flags.unicode name with
      | '\x7d' :: rest, some l => return (.look l, rest)
      | _, _ => throw .boundaryName
  | _ => return (.look plain, cs)

/-- Reads what follows a backslash. -/
def readEscape (flags : Flags) : List Char → Except SyntaxError (Atom × List Char)
  | [] => .error .danglingEscape
  | c :: rest =>
    if isAsciiDigit c then .error .backReference
    else if c == 'x' || c == 'u' || c == 'U' then readHexEscape flags c rest
    else if c == 'p' || c == 'P' then readProperty flags (c == 'P') rest
    else if isEscapable c then .ok (.literal c false, rest)
    else match c with
      | 'd' | 's' | 'w' => .ok (.shorthand c false, rest)
      | 'D' | 'S' | 'W' => .ok (.shorthand (asciiLower c) true, rest)
      | 'a' => .ok (.literal '\x07' false, rest)
      | 'f' => .ok (.literal '\x0c' false, rest)
      | 't' => .ok (.literal '\t' false, rest)
      | 'n' => .ok (.literal '\n' false, rest)
      | 'r' => .ok (.literal '\r' false, rest)
      | 'v' => .ok (.literal '\x0b' false, rest)
      | 'A' => .ok (.look .textStart, rest)
      | 'z' => .ok (.look .textEnd, rest)
      | 'b' => readBoundary flags rest
      | 'B' => .ok (.look (if flags.unicode then .notWordBoundary else .asciiNotWordBoundary), rest)
      | '<' => .ok (.look (if flags.unicode then .wordStart else .asciiWordStart), rest)
      | '>' => .ok (.look (if flags.unicode then .wordEnd else .asciiWordEnd), rest)
      | _ => .error .unknownEscape

/-- The expression that an atom stands for outside classes. -/
def Atom.toRegex (flags : Flags) : Atom → Except SyntaxError Regex
  | literal c byte =>
    if byte && !flags.unicode && c.toNat ≥ 0x80 then .error .partOfCharacter
    else .ok (flags.literal c)
  | look l => .ok (.look l)
  | shorthand name negated => return ofSet (← flags.negateSet negated (flags.shorthand name))
  | property s negated => return ofSet (← flags.negateSet negated (flags.foldSet s))

/-! ## Bracketed classes -/

/-- How the operands of a class are combined. -/
inductive SetOperation where
  | intersection
  | difference
  | symmetricDifference

/-- Combines two operands. -/
def SetOperation.apply (flags : Flags) (operation : SetOperation) (s t : CharSet) : CharSet :=
  let s := flags.foldSet s
  let t := flags.foldSet t
  match operation with
  | intersection => s.inter t
  | difference => s.diff t
  | symmetricDifference => s.symmDiff t

/-- The character that an atom stands for as an end of a range. -/
def Atom.endpoint (flags : Flags) : Atom → Except SyntaxError Char
  | literal c _ =>
    if !flags.unicode && c.toNat ≥ 0x80 then .error .unicodeOff else .ok c
  | _ => .error .classMember

/-- The set that an atom stands for inside a class. -/
def Atom.toSet (flags : Flags) : Atom → Except SyntaxError CharSet
  | atom@(literal _ _) => return .single (← atom.endpoint flags)
  | look _ => .error .classMember
  | shorthand name negated => flags.negateSet negated (flags.shorthand name)
  | property s negated => flags.negateSet negated (flags.foldSet s)

/-- Reads one atom of a class. -/
def readClassAtom (flags : Flags) : List Char → Except SyntaxError (Atom × List Char)
  | [] => .error .unclosedClass
  | '\\' :: rest => readEscape flags rest
  | c :: rest => .ok (.literal c false, rest)

/-- The character that decides what a hyphen means. Blanks are passed over, and so is the first
sign that opens a comment, but not the comment itself. A text of blanks is represented by its first
character. -/
def decidingChar (cs : List Char) : Option Char :=
  match cs.dropWhile isWhitespace with
  | '#' :: rest => (rest.dropWhile isWhitespace).head?.or cs.head?
  | rest => rest.head?.or cs.head?

/-- Reads an atom or a range. A hyphen before `]` or another hyphen makes no range. -/
def readClassRange (flags : Flags) (cs : List Char) : Except SyntaxError (CharSet × List Char) := do
  let (first, rest) ← readClassAtom flags cs
  match flags.skip rest with
  | [] => throw .unclosedClass
  | '-' :: after =>
    let next := if flags.ignoreSpace then decidingChar after else after.head?
    if next == some ']' || next == some '-' then return (← first.toSet flags, '-' :: after)
    let (last, rest) ← readClassAtom flags (flags.skip after)
    let low ← first.endpoint flags
    let high ← last.endpoint flags
    if low.toNat > high.toNat then throw .emptyRange
    return (.range low.toNat high.toNat, rest)
  | rest => return (← first.toSet flags, rest)

/-- Reads `[:name:]` after its first bracket; `none` if the text has another form. -/
def readAsciiClass (cs : List Char) : Option ((CharSet × Bool) × List Char) := do
  let ':' :: rest := cs | none
  let (negated, rest) := match rest with
    | '^' :: rest => (true, rest)
    | _ => (false, rest)
  let name := rest.takeWhile (· != ':')
  let s ← asciiClass? name
  match rest.dropWhile (· != ':') with
  | ':' :: ']' :: rest => some ((s, negated), rest)
  | _ => none

/-- Reads leading hyphens of a class, which stand for themselves. -/
def readLeadingHyphens (flags : Flags) : (fuel : Nat) → List Char → List Char × List Char
  | fuel + 1, '-' :: rest =>
    let (hyphens, rest) := readLeadingHyphens flags fuel (flags.skip rest)
    ('-' :: hyphens, rest)
  | _, cs => ([], cs)

/-- Reads the opening of a class after its bracket: negation, leading hyphens and a leading closing
bracket, which stands for itself. -/
def readClassOpening (flags : Flags) (cs : List Char) : Bool × List Char × List Char :=
  let cs := flags.skip cs
  let (negated, cs) := match cs with
    | '^' :: rest => (true, flags.skip rest)
    | _ => (false, cs)
  let (hyphens, cs) := readLeadingHyphens flags cs.length cs
  match hyphens, cs with
  | [], ']' :: rest => (negated, [']'], flags.skip rest)
  | _, _ => (negated, hyphens, cs)

/-- A part of a class: its set, the number of its members and the depth of their nesting. -/
structure ClassPart where
  set : CharSet := .empty
  members : Nat := 0
  nesting : Nat := 0

namespace ClassPart

/-- Adds a member with the given depth. -/
def add (part : ClassPart) (s : CharSet) (depth : Nat) : ClassPart :=
  ⟨part.set.union s, part.members + 1, max part.nesting depth⟩

/-- The depth of a part. A union of several members is one level deeper than they are. -/
def depth (part : ClassPart) : Nat :=
  if part.members ≤ 1 then part.nesting else part.nesting + 1

/-- Combines a part with the operand before it, as a part with a single member. -/
def combine (flags : Flags) (before : Option (SetOperation × ClassPart)) (part : ClassPart) :
    ClassPart :=
  match before with
  | none => part
  | some (operation, left) =>
    ⟨operation.apply flags left.set part.set, 1, max left.depth part.depth + 1⟩

end ClassPart

/-- Reads the rest of a class up to its closing bracket. `part` holds the members of the current
operand and `before` the operand to its left. The result comes with the depth of the class. -/
def readClass (flags : Flags) (fuel : Nat) (cs : List Char) (negated : Bool) (part : ClassPart)
    (before : Option (SetOperation × ClassPart)) : Except SyntaxError (CharSet × Nat × List Char) :=
  match fuel with
  | 0 => .error .tooDeep
  | fuel + 1 => do
    let operation := fun operation rest =>
      readClass flags fuel rest negated {} (some (operation, part.combine flags before))
    match flags.skip cs with
    | [] => throw .unclosedClass
    | '[' :: rest =>
      match readAsciiClass rest with
      | some ((s, inverse), rest) =>
        let s ← flags.negateSet inverse (flags.foldSet s)
        readClass flags fuel rest negated (part.add s 0) before
      | none =>
        let (inverse, members, rest) := readClassOpening flags rest
        let inner := members.foldl (fun part c => part.add (.single c) 0) {}
        let (s, depth, rest) ← readClass flags fuel rest inverse inner none
        readClass flags fuel rest negated (part.add s depth) before
    | ']' :: rest =>
      let whole := part.combine flags before
      return (← flags.negateSet negated (flags.foldSet whole.set), whole.depth + 1, rest)
    | '&' :: '&' :: rest => operation .intersection rest
    | '-' :: '-' :: rest => operation .difference rest
    | '~' :: '~' :: rest => operation .symmetricDifference rest
    | cs =>
      let (s, rest) ← readClassRange flags cs
      readClass flags fuel rest negated (part.add s 0) before

/-! ## Groups and flags -/

/-- What an opening parenthesis begins. -/
inductive Opening where
  /-- A setting of flags for the rest of the enclosing group. -/
  | setting (flags : Flags)
  /-- A group, with its number if it is recorded. -/
  | group (index : Option Nat) (flags : Flags)

/-- Sets one flag by its letter. -/
def Flags.set? (flags : Flags) (value : Bool) : Char → Option Flags
  | 'i' => some { flags with caseless := value }
  | 'm' => some { flags with multiLine := value }
  | 's' => some { flags with dotAll := value }
  | 'U' => some { flags with swapGreed := value }
  | 'u' => some { flags with unicode := value }
  | 'R' => some { flags with crlf := value }
  | 'x' => some { flags with ignoreSpace := value }
  | _ => none

/-- Reads flags up to `:` or `)`. A flag may occur once and the minus sign once, not at the end.
`seen` holds the letters read so far and `minus` whether the minus sign was among them. -/
def readFlags (flags : Flags) (seen : List Char) (minus dangling : Bool) :
    List Char → Except SyntaxError (Flags × List Char × Bool)
  | [] => .error .flag
  | '-' :: rest => if minus then .error .flag else readFlags flags seen true true rest
  | c :: rest =>
    if c == ':' || c == ')' then
      if dangling then .error .flag else .ok (flags, c :: rest, seen.isEmpty && !minus)
    else if seen.contains c then .error .flag
    else match flags.set? (!minus) c with
      | none => .error .flag
      | some flags => readFlags flags (c :: seen) minus false rest

/-- Whether a character may stand in the name of a group. -/
def isGroupName (first : Bool) (c : Char) : Bool :=
  if first then c == '_' || isAlphabetic c
  else c == '_' || c == '.' || c == '[' || c == ']' || isAlphanumeric c

/-- Reads the name of a group up to `>`. -/
def readGroupName (cs : List Char) : Except SyntaxError (List Char × List Char) :=
  let name := cs.takeWhile (· != '>')
  match cs.dropWhile (· != '>'), name with
  | _ :: rest, first :: others =>
    if isGroupName true first && others.all (isGroupName false) then .ok (name, rest)
    else .error .groupName
  | _, _ => .error .groupName

/-- Opens a recorded group with a name. -/
def openNamed (reading : Reading) (cs : List Char) : Except SyntaxError (Opening × Reading) := do
  let (name, rest) ← readGroupName cs
  if reading.names.contains name then throw .duplicateName
  let index := reading.groups + 1
  return (.group (some index) reading.flags,
    { reading with rest, groups := index, names := name :: reading.names })

/-- Reads what follows an opening parenthesis. -/
def readOpening (reading : Reading) (cs : List Char) : Except SyntaxError (Opening × Reading) := do
  match reading.flags.skip cs with
  | '?' :: '=' :: _ | '?' :: '!' :: _ | '?' :: '<' :: '=' :: _ | '?' :: '<' :: '!' :: _ =>
    throw .lookAround
  | '?' :: 'P' :: '<' :: rest | '?' :: '<' :: rest => openNamed reading rest
  | '?' :: rest =>
    if rest.isEmpty then throw .unclosedGroup
    let (flags, rest, unchanged) ← readFlags reading.flags [] false false rest
    match rest with
    | ')' :: rest =>
      if unchanged then throw .nothingToRepeat
      return (.setting flags, reading.at rest)
    | _ => return (.group none flags, reading.at (rest.drop 1))
  | rest =>
    let index := reading.groups + 1
    return (.group (some index) reading.flags, { reading with rest, groups := index })

/-! ## Repetitions -/

/-- The largest count that a repetition may name. -/
def maxCount : Nat := 4294967295

/-- Reads a decimal number with optional blanks around it. -/
def readCount (flags : Flags) (cs : List Char) : Except SyntaxError (Option Nat × List Char) :=
  let cs := cs.dropWhile isWhitespace
  let rec digits : (fuel : Nat) → List Char → List Char × List Char
    | fuel + 1, c :: rest =>
      if isAsciiDigit c then
        let (ds, rest) := digits fuel (flags.skip rest)
        (c :: ds, rest)
      else ([], c :: rest)
    | _, cs => ([], cs)
  let (ds, rest) := digits cs.length cs
  let n := ds.foldl (fun n d => n * 10 + (d.toNat - 48)) 0
  if ds.isEmpty then .ok (none, rest.dropWhile isWhitespace)
  else if n > maxCount then .error .repetitionCount
  else .ok (some n, flags.skip (rest.dropWhile isWhitespace))

/-- Reads the counts of a repetition after its brace: the least and the greatest number of rounds,
and what follows the closing brace. -/
def readCounts (flags : Flags) (cs : List Char) :
    Except SyntaxError (Nat × Option Nat × List Char) := do
  let cs := flags.skip cs
  if cs.isEmpty then throw .repetitionCount
  let (first, rest) ← readCount flags cs
  match first, rest with
  | some n, '\x7d' :: rest => return (n, some n, rest)
  | some n, ',' :: rest =>
    match flags.skip rest with
    | '\x7d' :: rest => return (n, none, rest)
    | rest =>
      let (last, rest) ← readCount flags rest
      match last, rest with
      | some m, '\x7d' :: rest => if m < n then throw .repetitionCount else return (n, some m, rest)
      | _, _ => throw .repetitionCount
  | _, _ => throw .repetitionCount

/-- Repeats the piece read last. The setting of a flag, marked by `none`, cannot be repeated. -/
def repeatLast (flags : Flags) (items : List (Option Piece)) (min : Nat) (max : Option Nat)
    (lazy : Bool) : Except SyntaxError (List (Option Piece)) :=
  match items with
  | some piece :: items =>
    .ok (some ⟨repeated (lazy == flags.swapGreed) min max piece.regex, piece.depth + 1⟩ :: items)
  | _ => .error .nothingToRepeat

/-- Whether a question mark follows that makes a repetition prefer fewer rounds. -/
def readLazy : List Char → Bool × List Char
  | '?' :: rest => (true, rest)
  | rest => (false, rest)

/-! ## Whole patterns -/

/-- The largest depth of nesting. -/
def maxDepth : Nat := 250

/-- The sequence of pieces, given in reverse. -/
def sequencePieces (items : List (Option Piece)) : Piece :=
  let pieces := (items.reverse).filterMap id
  let depth := pieces.foldl (fun d piece => max d piece.depth) 0
  ⟨sequence (pieces.map (·.regex)), if items.length ≤ 1 then depth else depth + 1⟩

/-- The choice between branches, given in reverse. -/
def choosePieces (branches : List Piece) : Piece :=
  let pieces := branches.reverse
  let depth := pieces.foldl (fun d piece => max d piece.depth) 0
  ⟨choose (pieces.map (·.regex)), if pieces.length ≤ 1 then depth else depth + 1⟩

/-- Reads up to a closing parenthesis or the end. `items` holds the pieces of the current branch and
`branches` the branches to its left, both in reverse. -/
def readBranches (fuel : Nat) (reading : Reading) (items : List (Option Piece))
    (branches : List Piece) : Except SyntaxError (Piece × Reading) :=
  match fuel with
  | 0 => .error .tooDeep
  | fuel + 1 => do
    let flags := reading.flags
    match flags.skip reading.rest with
    | [] => return (choosePieces (sequencePieces items :: branches), reading.at [])
    | ')' :: rest =>
      return (choosePieces (sequencePieces items :: branches), reading.at (')' :: rest))
    | '|' :: rest =>
      readBranches fuel (reading.at rest) [] (sequencePieces items :: branches)
    | '(' :: rest =>
      match ← readOpening reading rest with
      | (.setting flags, reading) =>
        readBranches fuel { reading with flags } (none :: items) branches
      | (.group index inner, opened) =>
        let (body, closed) ← readBranches fuel { opened with flags := inner } [] []
        match closed.rest with
        | ')' :: rest =>
          let regex := match index with
            | some i => Regex.group i body.regex
            | none => body.regex
          readBranches fuel { closed with rest, flags } (some ⟨regex, body.depth + 1⟩ :: items)
            branches
        | _ => throw .unclosedGroup
    | '[' :: rest =>
      let (negated, members, rest) := readClassOpening flags rest
      let part := members.foldl (fun part c => part.add (.single c) 0) {}
      let (s, depth, rest) ← readClass flags (rest.length + 1) rest negated part none
      readBranches fuel (reading.at rest) (some ⟨ofSet s, depth⟩ :: items) branches
    | '?' :: rest =>
      let (lazy, rest) := readLazy rest
      readBranches fuel (reading.at rest) (← repeatLast flags items 0 (some 1) lazy) branches
    | '*' :: rest =>
      let (lazy, rest) := readLazy rest
      readBranches fuel (reading.at rest) (← repeatLast flags items 0 none lazy) branches
    | '+' :: rest =>
      let (lazy, rest) := readLazy rest
      readBranches fuel (reading.at rest) (← repeatLast flags items 1 none lazy) branches
    | '\x7b' :: rest =>
      let _ ← repeatLast flags items 1 none false
      let (min, max, rest) ← readCounts flags rest
      let (lazy, rest) := readLazy (flags.skip rest)
      readBranches fuel (reading.at rest) (← repeatLast flags items min max lazy) branches
    | '\\' :: rest =>
      let (atom, rest) ← readEscape flags rest
      readBranches fuel (reading.at rest) (some ⟨← atom.toRegex flags, 0⟩ :: items) branches
    | '.' :: rest =>
      readBranches fuel (reading.at rest) (some ⟨← flags.dot, 0⟩ :: items) branches
    | '^' :: rest =>
      readBranches fuel (reading.at rest) (some ⟨.look flags.caret, 0⟩ :: items) branches
    | '$' :: rest =>
      readBranches fuel (reading.at rest) (some ⟨.look flags.dollar, 0⟩ :: items) branches
    | c :: rest =>
      readBranches fuel (reading.at rest) (some ⟨flags.literal c, 0⟩ :: items) branches

/-- Reads a whole pattern. -/
def parse (pattern : String) : Except SyntaxError Regex := do
  let cs := pattern.toList
  let (piece, reading) ← readBranches (cs.length + 1) { rest := cs } [] []
  if !reading.rest.isEmpty then throw .unopenedGroup
  if piece.depth > maxDepth then throw .tooDeep
  return piece.regex

end ArtifactPipeline.Regex
