import ArtifactPipeline.Regex.CharSet

/-!
# Regular expressions

The abstract form of a pattern: character sets, assertions about the place between two characters,
sequence, ordered choice, repetition with a preference for more or for fewer rounds, and numbered
groups.
-/

namespace ArtifactPipeline

namespace Regex

/-- An assertion about the place between two neighbouring characters. -/
inductive Look where
  | textStart
  | textEnd
  | lineStart
  | lineEnd
  /-- Line ends where a carriage return, a newline or both together end a line. -/
  | lineStartCrlf
  | lineEndCrlf
  | wordBoundary
  | notWordBoundary
  | wordStart
  | wordEnd
  | wordStartHalf
  | wordEndHalf
  /-- The same assertions with ASCII word characters only. -/
  | asciiWordBoundary
  | asciiNotWordBoundary
  | asciiWordStart
  | asciiWordEnd
  | asciiWordStartHalf
  | asciiWordEndHalf
  deriving Repr, DecidableEq

namespace Look

open Text

/-- Whether an assertion holds between the previous and the next character, where `none` stands for
the edge of the text. -/
def holds (previous next : Option Char) : Look → Bool
  | textStart => previous.isNone
  | textEnd => next.isNone
  | lineStart => previous.all (· == '\n')
  | lineEnd => next.all (· == '\n')
  | lineStartCrlf =>
    previous.all fun c => c == '\n' || (c == '\r' && next != some '\n')
  | lineEndCrlf =>
    next.all fun c => c == '\r' || (c == '\n' && previous != some '\r')
  | wordBoundary => previous.any isWord != next.any isWord
  | notWordBoundary => previous.any isWord == next.any isWord
  | wordStart => !previous.any isWord && next.any isWord
  | wordEnd => previous.any isWord && !next.any isWord
  | wordStartHalf => !previous.any isWord
  | wordEndHalf => !next.any isWord
  | asciiWordBoundary => previous.any isAsciiWord != next.any isAsciiWord
  | asciiNotWordBoundary => previous.any isAsciiWord == next.any isAsciiWord
  | asciiWordStart => !previous.any isAsciiWord && next.any isAsciiWord
  | asciiWordEnd => previous.any isAsciiWord && !next.any isAsciiWord
  | asciiWordStartHalf => !previous.any isAsciiWord
  | asciiWordEndHalf => !next.any isAsciiWord

end Look

end Regex

open Regex in
/-- A regular expression. The order of a choice and the greed of a repetition decide which of
several matches at the same place is taken. -/
inductive Regex where
  /-- Matches the empty text. -/
  | empty
  /-- Matches the given characters, one after another. -/
  | chars (cs : List Char)
  /-- Matches one character of the set. -/
  | set (s : CharSet)
  | look (l : Look)
  | seq (a b : Regex)
  /-- Tries `a` first. -/
  | alt (a b : Regex)
  /-- Between `min` and `max` rounds of `body`, more rounds first iff `greedy`. -/
  | rep (greedy : Bool) (min : Nat) (max : Option Nat) (body : Regex)
  /-- Records where `body` matched under the number `index`. -/
  | group (index : Nat) (body : Regex)
  deriving Repr, DecidableEq

namespace Regex

/-- The sequence of the given expressions. -/
def concat : List Regex → Regex
  | [] => empty
  | [r] => r
  | r :: rs => seq r (concat rs)

/-- The ordered choice between the given expressions. -/
def choice : List Regex → Regex
  | [] => set .empty
  | [r] => r
  | r :: rs => alt r (choice rs)

/-- Matches exactly the given text. -/
def literal (text : String) : Regex := chars text.toList

/-- Any number of rounds, as many as possible first. -/
def star (body : Regex) : Regex := rep true 0 none body

/-- At least one round, as many as possible first. -/
def plus (body : Regex) : Regex := rep true 1 none body

/-- Any number of rounds, as few as possible first. -/
def lazyStar (body : Regex) : Regex := rep false 0 none body

/-- At most one round, preferably one. -/
def opt (body : Regex) : Regex := rep true 0 (some 1) body

/-- Whether the expression can match the empty text, assertions taken to hold. -/
def nullable : Regex → Bool
  | empty | look _ => true
  | chars cs => cs.isEmpty
  | set _ => false
  | seq a b => a.nullable && b.nullable
  | alt a b => a.nullable || b.nullable
  | rep _ min _ body => min == 0 || body.nullable
  | group _ body => body.nullable

/-- Whether the expression can match nothing but the empty text. -/
def onlyEmpty : Regex → Bool
  | empty | look _ => true
  | chars cs => cs.isEmpty
  | set _ => false
  | seq a b | alt a b => a.onlyEmpty && b.onlyEmpty
  | rep _ _ max body => max == some 0 || body.onlyEmpty
  | group _ body => body.onlyEmpty

/-- Whether every match takes at least one character. This is not known of an expression with a
branch that cannot match at all. -/
def consumes (r : Regex) : Bool :=
  match minLength r with
  | some n => n > 0
  | none => false
where
  /-- The number of characters of the shortest match, if every branch has one. -/
  minLength : Regex → Option Nat
    | empty | look _ => some 0
    | chars cs => some cs.length
    | set s => if s.ranges.isEmpty then none else some 1
    | seq a b => do return (← minLength a) + (← minLength b)
    | alt a b => do return min (← minLength a) (← minLength b)
    | rep _ min _ body => (minLength body).map (· * min)
    | group _ body => minLength body

/-- Whether an expression has a group. -/
def hasGroup : Regex → Bool
  | empty | chars _ | set _ | look _ => false
  | seq a b | alt a b => a.hasGroup || b.hasGroup
  | rep _ _ _ body => body.hasGroup
  | group _ _ => true

/-- Whether an expression has an assertion. -/
def hasLook : Regex → Bool
  | empty | chars _ | set _ => false
  | look _ => true
  | seq a b | alt a b => a.hasLook || b.hasLook
  | rep _ _ _ body => body.hasLook
  | group _ body => body.hasLook

/-- Whether every match begins where the assertion `l` holds, as far as the form of the expression
shows. -/
def beginsWith (l : Look) : Regex → Bool
  | empty | chars _ | set _ => false
  | look l' => l' == l
  | seq a b => a.beginsWith l || (a.onlyEmpty && b.beginsWith l)
  | alt a b => a.beginsWith l && b.beginsWith l
  | rep _ min _ body => min > 0 && body.beginsWith l
  | group _ body => body.beginsWith l

/-- Whether every match ends where the assertion `l` holds, as far as the form of the expression
shows. -/
def endsWith (l : Look) : Regex → Bool
  | empty | chars _ | set _ => false
  | look l' => l' == l
  | seq a b => b.endsWith l || (b.onlyEmpty && a.endsWith l)
  | alt a b => a.endsWith l && b.endsWith l
  | rep _ min _ body => min > 0 && body.endsWith l
  | group _ body => body.endsWith l

end Regex

end ArtifactPipeline
