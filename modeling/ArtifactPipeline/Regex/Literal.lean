import ArtifactPipeline.Regex.Normal

/-!
# Leading literals

Which texts the matches of an expression begin with, as far as a short list tells. If the list is
exact, an expression without groups and assertions is nothing but a choice between its texts, and
these can be searched for directly, without a program.
-/

namespace ArtifactPipeline.Regex

/-- A text with which matches begin. It is exact if it is the whole match. -/
structure Literal where
  bytes : List UInt8
  exact : Bool := true
  deriving Repr, DecidableEq

namespace Literal

/-- The same text, as a mere beginning. -/
def inexact (l : Literal) : Literal := { l with exact := false }

/-- The text cut off after `n` bytes. -/
def truncate (n : Nat) (l : Literal) : Literal :=
  if n < l.bytes.length then ⟨l.bytes.take n, false⟩ else l

end Literal

/-- The texts with which matches begin, most preferred first; `none` if they are too many to
list. -/
abbrev Literals := Option (List Literal)

namespace Literals

/-- The largest set of characters that is listed one by one. -/
def setLimit : Nat := 10

/-- The most rounds of a repetition that are followed. -/
def roundLimit : Nat := 10

/-- The longest text in bytes. -/
def lengthLimit : Nat := 100

/-- The longest list. -/
def countLimit : Nat := 250

/-- Merges neighbours with the same text. What is left is exact only if both were. -/
def dedup : List Literal → List Literal
  | [] => []
  | l :: rest =>
    match dedup rest with
    | [] => [l]
    | next :: rest =>
      if l.bytes = next.bytes then ⟨l.bytes, l.exact && next.exact⟩ :: rest
      else l :: next :: rest

/-- The texts as mere beginnings. -/
def inexact (s : Literals) : Literals := s.map (·.map Literal.inexact)

/-- The texts cut off after `n` bytes. -/
def truncate (n : Nat) (s : Literals) : Literals := s.map (·.map (Literal.truncate n))

/-- Whether no text is a whole match, so that nothing can be appended to any. -/
def isInexact (s : Literals) : Bool := s.all (·.all (!·.exact))

/-- The length of the shortest text. -/
def minLength? (s : Literals) : Option Nat :=
  s.bind fun texts => (texts.map (·.bytes.length)).min?

/-- Appends the texts of the second list to the exact texts of the first. -/
def append (texts others : List Literal) : List Literal :=
  dedup (texts.flatMap fun l =>
    if l.exact then others.map fun o => ⟨l.bytes ++ o.bytes, o.exact⟩ else [l])

/-- What begins with a text of the first list followed by one of the second. -/
def cross (s t : Literals) : Literals :=
  let t := match s, t with
    | some texts, some others => if texts.length * others.length > countLimit then none else t
    | _, _ => t
  let joined := match s, t with
    | none, _ => none
    | some texts, some others => some (append texts others)
    | some _, none => if s.minLength? = some 0 then none else s.inexact
  truncate lengthLimit joined

/-- What begins with a text of either list. Where the lists are too long together, long texts are
cut off first. -/
def union (s t : Literals) : Literals := do
  let texts ← s
  let others ← t
  if texts.length + others.length ≤ countLimit then return dedup (texts ++ others)
  let texts := dedup (texts.map (Literal.truncate 4))
  let others := dedup (others.map (Literal.truncate 4))
  if texts.length + others.length ≤ countLimit then return dedup (texts ++ others)
  none

/-- The list with the empty text only. -/
def unit : Literals := some [⟨[], true⟩]

/-- `count` rounds, as long as something can be appended. -/
def rounds (body : Literals) : (count : Nat) → Literals → Literals
  | 0, s => s
  | count + 1, s => if s.isInexact then s else rounds body count (s.cross body)

/-- The bytes of a text. -/
def bytesOf (cs : List Char) : List UInt8 := cs.flatMap String.utf8EncodeChar

/-- The characters of a set, if they are few. -/
def ofSet (s : CharSet) : Literals :=
  if s.ranges.count > setLimit then none
  else some (s.ranges.flatMap fun (low, high) =>
    (List.range (high + 1 - low)).map fun i => ⟨bytesOf [Char.ofNat (low + i)], true⟩)

mutual

/-- The texts with which the matches of an expression begin. Assertions count as empty. -/
def ofRegex : Regex → Literals
  | .empty | .look _ => unit
  | .chars cs => truncate lengthLimit (some [⟨bytesOf cs, true⟩])
  | .set s => ofSet s
  | .group _ body => ofRegex body
  | .seq a b => followedBy (unit.cross (ofRegex a)) b
  | .alt a b => orElse (union (some []) (ofRegex a)) b
  | .rep greedy 0 max body =>
    let once := ofRegex body
    let taken := if max == some 1 then once else once.inexact
    if greedy then taken.union unit else unit.union taken
  | .rep _ min max body =>
    let s := rounds (ofRegex body) (Nat.min min roundLimit) unit
    if max == some min && min ≤ roundLimit then s else s.inexact

/-- What begins with a text of the list, followed by the parts of a sequence. -/
def followedBy (s : Literals) : Regex → Literals
  | .seq a b => if s.isInexact then s else followedBy (s.cross (ofRegex a)) b
  | r => if s.isInexact then s else s.cross (ofRegex r)

/-- What begins with a text of the list or matches a branch of a choice. -/
def orElse (s : Literals) : Regex → Literals
  | .alt a b => orElse (s.union (ofRegex a)) b
  | r => s.union (ofRegex r)

end

/-! ## Shorter lists -/

/-- Drops every text that begins with a text before it, which is always preferred. -/
def minimize (texts : List Literal) : List Literal :=
  texts.foldl (fun kept l =>
    if kept.any (·.bytes.isPrefixOf l.bytes) then kept else kept ++ [l]) []

/-- The longest text with which two texts begin. -/
def commonStart : List UInt8 → List UInt8 → List UInt8
  | a :: as, b :: bs => if a = b then a :: commonStart as bs else []
  | _, _ => []

/-- The longest text with which all texts begin. -/
def sharedStart : List Literal → List UInt8
  | [] => []
  | l :: rest => rest.foldl (fun start l => commonStart start l.bytes) l.bytes

/-- Whether a byte is rare enough in texts to be searched for by itself. -/
def isRare (b : UInt8) : Bool :=
  b < 0x80 && !("\n\r (),-./0129:_abcdefghilmnoprstuvxy|".toList.contains (Char.ofNat b.toNat))

/-- How long texts may be, in bytes, where the list is longer than the second number. -/
def cuts : List (Nat × Nat) := [(5, 10), (4, 10), (3, 64), (2, 64), (1, 10)]

/-- Cuts off texts until the list is short enough for their length. -/
def shorten : List (Nat × Nat) → List Literal → List Literal
  | [], texts => texts
  | (keep, count) :: rest, texts =>
    if texts.length ≤ count then texts
    else shorten rest (minimize (texts.map (Literal.truncate keep)))

/-- The list that serves a search best: shared starts are searched for alone if that is fast, and
long lists are shortened. An exact list is kept if shortening gives short texts or still a long
list. A list with the empty text is of no use. -/
def forSearch (s : Literals) : Literals := do
  let texts ← s
  if texts.any (·.bytes.isEmpty) then none
  let several := texts.length > 1
  let texts := minimize texts
  let start := sharedStart texts
  let exactAndFew := texts.all (·.exact) && texts.length ≤ 16
  if several && 1 ≤ start.length && start.length ≤ 3 && start.head?.any isRare then
    return dedup (texts.map (Literal.truncate 1))
  let texts :=
    if start.length > 4 || (start.length > 1 && !exactAndFew) then
      dedup (texts.map (Literal.truncate start.length))
    else texts
  let short := shorten cuts texts
  if texts.all (·.exact) && (short.any (·.bytes.length ≤ 2) || short.length > 64) then
    return texts
  return short

end Literals

/-- The number of branches from which on a choice between texts is searched for directly. -/
def manyBranches : Nat := 3000

/-- Whether an expression is a choice between so many texts that it is searched for directly. -/
def isLongList (r : Regex) : Bool :=
  r.branches.length ≥ manyBranches && r.branches.all fun branch =>
    match branch with
    | chars _ => true
    | _ => false

/-- Whether an expression needs no program, because it is a choice between few texts. -/
def isLiteral (r : Regex) : Bool :=
  !r.hasGroup && !r.hasLook &&
    (r.isLongList ||
      match (Literals.ofRegex r).forSearch with
      | some texts => !texts.isEmpty && texts.all (·.exact)
      | none => false)

end ArtifactPipeline.Regex
