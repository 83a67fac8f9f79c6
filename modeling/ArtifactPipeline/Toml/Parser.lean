import ArtifactPipeline.Toml.Scalar

/-!
# Reading TOML

The reader for TOML texts. It is strict: a text that breaks a rule anywhere has no value.
-/

namespace ArtifactPipeline.Toml

open Text

/-- What is left of a text after its beginning has been read. -/
abbrev Rest := List Char

/-- Whether a character is blank inside a line. -/
def isBlank (c : Char) : Bool := c == ' ' || c == '\t'

/-- Drops blanks. -/
def dropBlanks (cs : Rest) : Rest := cs.dropWhile isBlank

/-- Whether a character may not stand as it is in a comment or a string. -/
def isControl (c : Char) : Bool := (c.toNat < 0x20 && c != '\t') || c.toNat == 0x7F

/-- Drops a comment, if there is one, up to the end of its line. -/
def dropComment : Rest → Rest
  | '#' :: rest => rest.dropWhile fun c => !isControl c
  | cs => cs

/-- Reads a line break. -/
def readNewline? : Rest → Option Rest
  | '\n' :: rest => some rest
  | '\r' :: '\n' :: rest => some rest
  | _ => none

/-- Reads the rest of a line: blanks, a comment and a line break or the end of the text. -/
def readLineEnd? (cs : Rest) : Option Rest :=
  match dropComment (dropBlanks cs) with
  | [] => some []
  | cs => readNewline? cs

/-- Drops blanks, comments and line breaks. -/
def dropLines : (fuel : Nat) → Rest → Rest
  | 0, cs => cs
  | fuel + 1, cs =>
    let cs := dropComment (dropBlanks cs)
    match readNewline? cs with
    | some cs => dropLines fuel cs
    | none => cs

/-! ## Strings -/

/-- The character that a one-letter escape stands for. -/
def simpleEscape? : Char → Option Char
  | 'b' => some '\x08'
  | 't' => some '\t'
  | 'n' => some '\n'
  | 'f' => some '\x0c'
  | 'r' => some '\r'
  | 'e' => some '\x1b'
  | '"' => some '"'
  | '\\' => some '\\'
  | _ => none

/-- The character with a code point, which must not be that of a surrogate. -/
def scalar? (n : Nat) : Option Char :=
  if h : n.isValidChar then some (Char.ofNatAux n h) else none

/-- The character that hexadecimal digits stand for. -/
def hexEscape? (digits : List Char) : Option Char := (hexNumber? digits).bind scalar?

/-- Whether nothing but blanks follows on a line. -/
def endsLine (cs : Rest) : Bool := (readNewline? (dropBlanks cs)).isSome

/-- Reads a string in double quotes after the opening quote. `read` holds its characters in
reverse. -/
def readBasic (read : List Char) : Rest → Option (List Char × Rest)
  | [] => none
  | '"' :: rest => some (read.reverse, rest)
  | '\\' :: 'u' :: a :: b :: c :: d :: rest =>
    match hexEscape? [a, b, c, d] with
    | some c => readBasic (c :: read) rest
    | none => none
  | '\\' :: 'U' :: a :: b :: c :: d :: e :: f :: g :: h :: rest =>
    match hexEscape? [a, b, c, d, e, f, g, h] with
    | some c => readBasic (c :: read) rest
    | none => none
  | '\\' :: 'x' :: a :: b :: rest =>
    match hexEscape? [a, b] with
    | some c => readBasic (c :: read) rest
    | none => none
  | '\\' :: c :: rest =>
    match simpleEscape? c with
    | some c => readBasic (c :: read) rest
    | none => none
  | c :: rest => if isControl c || c == '\\' then none else readBasic (c :: read) rest

/-- Reads a string in three double quotes after the opening quotes and the first line break. Line
breaks are kept as they are written. `skipping` tells whether blanks and line breaks
are dropped, as they are after a backslash at the end of a line. -/
def readLongBasic (skipping : Bool) (read : List Char) : Rest → Option (List Char × Rest)
  | [] => none
  | '"' :: '"' :: '"' :: '"' :: '"' :: rest => some (('"' :: '"' :: read).reverse, rest)
  | '"' :: '"' :: '"' :: '"' :: rest => some (('"' :: read).reverse, rest)
  | '"' :: '"' :: '"' :: rest => some (read.reverse, rest)
  | '\\' :: 'u' :: a :: b :: c :: d :: rest =>
    match hexEscape? [a, b, c, d] with
    | some c => readLongBasic false (c :: read) rest
    | none => none
  | '\\' :: 'U' :: a :: b :: c :: d :: e :: f :: g :: h :: rest =>
    match hexEscape? [a, b, c, d, e, f, g, h] with
    | some c => readLongBasic false (c :: read) rest
    | none => none
  | '\\' :: 'x' :: a :: b :: rest =>
    match hexEscape? [a, b] with
    | some c => readLongBasic false (c :: read) rest
    | none => none
  | '\\' :: c :: rest =>
    match simpleEscape? c with
    | some c => readLongBasic false (c :: read) rest
    | none => if endsLine (c :: rest) then readLongBasic true read (c :: rest) else none
  | '\r' :: '\n' :: rest =>
    readLongBasic skipping (if skipping then read else '\n' :: '\r' :: read) rest
  | c :: rest =>
    if skipping && (isBlank c || c == '\n') then readLongBasic true read rest
    else if (isControl c && c != '\n') || c == '\\' then none
    else readLongBasic false (c :: read) rest

/-- Reads a string in single quotes after the opening quote. -/
def readLiteral (read : List Char) : Rest → Option (List Char × Rest)
  | [] => none
  | '\'' :: rest => some (read.reverse, rest)
  | c :: rest => if isControl c then none else readLiteral (c :: read) rest

/-- Reads a string in three single quotes after the opening quotes and the first line break. Line
breaks are kept as they are written. -/
def readLongLiteral (read : List Char) : Rest → Option (List Char × Rest)
  | [] => none
  | '\'' :: '\'' :: '\'' :: '\'' :: '\'' :: rest => some (('\'' :: '\'' :: read).reverse, rest)
  | '\'' :: '\'' :: '\'' :: '\'' :: rest => some (('\'' :: read).reverse, rest)
  | '\'' :: '\'' :: '\'' :: rest => some (read.reverse, rest)
  | '\r' :: '\n' :: rest => readLongLiteral ('\n' :: '\r' :: read) rest
  | c :: rest => if isControl c && c != '\n' then none else readLongLiteral (c :: read) rest

/-- Reads a string, if one begins here. -/
def readString? : Rest → Option (Option (List Char × Rest))
  | '"' :: '"' :: '"' :: rest => some (readLongBasic false [] ((readNewline? rest).getD rest))
  | '"' :: rest => some (readBasic [] rest)
  | '\'' :: '\'' :: '\'' :: rest => some (readLongLiteral [] ((readNewline? rest).getD rest))
  | '\'' :: rest => some (readLiteral [] rest)
  | _ => none

/-! ## Keys -/

/-- Whether a character may stand in a name without quotes. -/
def isBare (c : Char) : Bool := isAsciiWord c || c == '-'

/-- Reads one name of a key. -/
def readName : Rest → Option (String × Rest)
  | '"' :: rest => (readBasic [] rest).map fun (s, rest) => (String.ofList s, rest)
  | '\'' :: rest => (readLiteral [] rest).map fun (s, rest) => (String.ofList s, rest)
  | cs =>
    let name := cs.takeWhile isBare
    if name.isEmpty then none else some (String.ofList name, cs.dropWhile isBare)

/-- Reads names joined by dots, of which there may be at most `most`. Blanks around the names are
dropped. -/
def readPath : (most : Nat) → Rest → Option (List String × Rest)
  | 0, _ => none
  | most + 1, cs =>
    match readName (dropBlanks cs) with
    | none => none
    | some (name, rest) =>
      match dropBlanks rest with
      | '.' :: rest => (readPath most rest).map fun (path, rest) => (name :: path, rest)
      | rest => some ([name], rest)

/-- How many names a key may have, and how many brackets and braces may be open in a value. -/
def depthLimit : Nat := 80

/-- Reads a key. -/
def readKey (cs : Rest) : Option (List String × Rest) := readPath depthLimit cs

/-! ## Values -/

/-- Whether a character may belong to a value without quotes. -/
def isWordChar (c : Char) : Bool :=
  isAsciiWord c || c == '+' || c == '-' || c == '.' || c == ':'

/-- Takes the word at the beginning. After a date, a blank and a digit begin the time. -/
def takeWord (cs : Rest) : List Char × Rest :=
  let word := cs.takeWhile isWordChar
  let rest := cs.dropWhile isWordChar
  match rest with
  | ' ' :: d :: more =>
    if isDate word && isAsciiDigit d then
      (word ++ ' ' :: (d :: more).takeWhile isWordChar, (d :: more).dropWhile isWordChar)
    else (word, rest)
  | _ => (word, rest)

mutual

/-- Reads a value in which at most `depth` brackets and braces are open at once. -/
def readValue : (fuel depth : Nat) → Rest → Option (Value × Rest)
  | 0, _, _ => none
  | fuel + 1, depth, cs =>
    match readString? cs with
    | some result => result.map fun (s, rest) => (.str (String.ofList s), rest)
    | none =>
      match cs, depth with
      | '[' :: rest, depth + 1 => readItems fuel depth [] rest
      | '\x7b' :: rest, depth + 1 => readInline fuel depth [] rest
      | cs, _ =>
        let (word, rest) := takeWord cs
        (readWord word).map (·, rest)

/-- Reads the items of an array up to its closing bracket. `read` holds the items in reverse. -/
def readItems : (fuel depth : Nat) → List Value → Rest → Option (Value × Rest)
  | 0, _, _, _ => none
  | fuel + 1, depth, read, cs =>
    match dropLines cs.length cs with
    | ']' :: rest => some (.arr read.reverse, rest)
    | cs =>
      match readValue fuel depth cs with
      | none => none
      | some (v, rest) =>
        match dropLines rest.length rest with
        | ',' :: rest => readItems fuel depth (v :: read) rest
        | ']' :: rest => some (.arr (v :: read).reverse, rest)
        | _ => none

/-- Reads the entries of a table in braces up to the closing brace. -/
def readInline : (fuel depth : Nat) → Entries → Rest → Option (Value × Rest)
  | 0, _, _, _ => none
  | fuel + 1, depth, read, cs =>
    match dropLines cs.length cs with
    | '\x7d' :: rest => some (.table .inline read, rest)
    | cs =>
      match readKey cs with
      | none => none
      | some (key, rest) =>
        match dropLines rest.length rest with
        | '=' :: rest =>
          match readValue fuel depth (dropLines rest.length rest) with
          | none => none
          | some (v, rest) =>
            match read.putDotted v true key with
            | none => none
            | some read =>
              match dropLines rest.length rest with
              | ',' :: rest => readInline fuel depth read rest
              | '\x7d' :: rest => some (.table .inline read, rest)
              | _ => none
        | _ => none

end

/-! ## Documents -/

/-- Reads a header after its opening brackets, up to and with the closing ones. -/
def readHeader (close : List Char) (cs : Rest) : Option (List String × Rest) :=
  match readKey cs with
  | some (path, rest) =>
    if close.isPrefixOf rest then some (path, rest.drop close.length) else none
  | none => none

/-- Reads one line that is not blank: a header or an entry. The result is the header that is now in
force, the document and the rest of the line. -/
def readLine (header : List String) (document : Entries) (cs : Rest) :
    Option (List String × Entries × Rest) :=
  match cs with
  | '[' :: '[' :: rest =>
    match readHeader [']', ']'] rest with
    | some (path, rest) => (document.openItem path).map (path, ·, rest)
    | none => none
  | '[' :: rest =>
    match readHeader [']'] rest with
    | some (path, rest) => (document.openTable path).map (path, ·, rest)
    | none => none
  | cs =>
    match readKey cs with
    | some (key, '=' :: rest) =>
      match readValue rest.length depthLimit (dropBlanks rest) with
      | some (v, rest) => (document.put header key v).map (header, ·, rest)
      | none => none
    | _ => none

/-- Reads the lines of a document. -/
def readLines : (fuel : Nat) → List String → Entries → Rest → Option Entries
  | 0, _, _, _ => none
  | fuel + 1, header, document, cs =>
    match dropLines cs.length cs with
    | [] => some document
    | cs =>
      match readLine header document cs with
      | none => none
      | some (header, document, rest) =>
        match readLineEnd? rest with
        | some rest => readLines fuel header document rest
        | none => none

/-- The table that a text describes. A mark of the byte order at the beginning is dropped. -/
def parse (text : List Char) : Option Entries :=
  let text := match text with
    | '\uFEFF' :: rest => rest
    | cs => cs
  readLines (text.length + 1) [] [] text

end ArtifactPipeline.Toml
