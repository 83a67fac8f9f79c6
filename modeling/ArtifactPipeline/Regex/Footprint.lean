import ArtifactPipeline.Regex.Literal
import ArtifactPipeline.Text.Utf8
import Std.Data.HashMap

/-!
# The memory of a pattern

A limit on the memory of a pattern bounds two automata over the bytes of UTF-8, one for reading
texts forwards and one for reading them backwards. This module counts their states in the order in
which they are laid out. A set of characters is laid out as byte patterns that share states; which
states are shared depends on a small memory of the states laid out last, so the numbers of states
are counted along.
-/

namespace ArtifactPipeline.Regex

open Text

/-- How much of an automaton has been laid out. -/
structure Footprint where
  /-- The bytes that must not be exceeded. -/
  limit : Nat
  states : Nat := 0
  /-- The bytes that states take beyond their fixed size. -/
  extra : Nat := 0

namespace Footprint

/-- The bytes laid out so far. Every state takes 32. -/
def bytes (f : Footprint) : Nat := 32 * f.states + f.extra

/-- Whether the limit is exceeded. Nothing is ever taken back, so the rest need not be counted. -/
def isOver (f : Footprint) : Bool := f.limit < f.bytes

/-- Lays out states without further bytes. -/
def addStates (n : Nat) (f : Footprint) : Footprint := { f with states := f.states + n }

/-- Lays out a state that leads on by `n` ranges of bytes. -/
def addRanges (n : Nat) (f : Footprint) : Footprint :=
  { f with states := f.states + 1, extra := f.extra + 8 * n }

/-- Gives states that choose between continuations `n` more of them. -/
def addBranches (n : Nat) (f : Footprint) : Footprint := { f with extra := f.extra + 4 * n }

/-- The place in a memory of `places` places for a key of numbers. -/
def placeOf (places : Nat) (key : List Nat) : Nat :=
  let mixed := key.foldl (fun (h : UInt64) n => (h ^^^ n.toUInt64) * 1099511628211)
    14695981039346656037
  (mixed % places.toUInt64).toNat

/-- The states laid out last, each at the place that its key determines. -/
abbrev Recent := Std.HashMap Nat (List Nat × Nat)

/-- The number of the state with the given key, if it is remembered. -/
def Recent.find? (recent : Recent) (place : Nat) (key : List Nat) : Option Nat :=
  match recent[place]? with
  | some (known, state) => if known = key then some state else none
  | none => none

/-! ## Sets of characters -/

/-- A state of a set read forwards: the ranges of bytes by which it leads on, each with the number
of the next state. An equal state that is remembered is used again. -/
def forwardState (key : List Nat) (f : Footprint) (recent : Recent) : Nat × Footprint × Recent :=
  let place := placeOf 10000 key
  match recent.find? place key with
  | some state => (state, f, recent)
  | none => (f.states, f.addRanges (key.length / 3), recent.insert place (key, f.states))

/-- Lays out the states that read the given byte patterns, the later bytes of a pattern first, and
gives the number of the state that reads the first byte. -/
def forwardPatterns (stop : Nat) : (depth : Nat) → List (List Utf8.ByteRange) → Footprint →
    Recent → Nat × Footprint × Recent
  | 0, _, f, recent => (stop, f, recent)
  | depth + 1, patterns, f, recent =>
    let groups := patterns.splitBy fun a b => a.head? == b.head?
    let (key, f, recent) := groups.foldl (fun (key, f, recent) group =>
      let (low, high) := (group.head?.bind (·.head?)).getD (0, 0)
      let tails := (group.map (·.drop 1)).filter (!·.isEmpty)
      let (next, f, recent) :=
        if tails.isEmpty then (stop, f, recent) else forwardPatterns stop depth tails f recent
      (key ++ [low, high, next], f, recent)) ([], f, recent)
    forwardState key f recent

/-- Lays out a set that is read forwards. -/
def forwardSet (s : CharSet) (f : Footprint) : Footprint :=
  let patterns := s.ranges.flatMap fun (low, high) => Utf8.patterns low high
  (forwardPatterns f.states 4 patterns (f.addStates 1) ∅).2.1

/-- Lays out one byte pattern that is read backwards, from its first byte to its last. A state that
leads to the same state by the same bytes is used again if it is remembered. -/
def backwardPattern (pattern : List Utf8.ByteRange) (stop : Nat) (f : Footprint)
    (recent : Recent) : Footprint × Recent :=
  match pattern with
  | [] => (f.addBranches 1, recent)
  | (low, high) :: rest =>
    let key := [stop, low, high]
    let place := placeOf 1000 key
    match recent.find? place key with
    | some state => backwardPattern rest state f recent
    | none =>
      backwardPattern rest f.states (f.addStates 1) (recent.insert place (key, f.states))

/-- Lays out a set that is read backwards: a choice between its patterns and a state where they
meet. -/
def backwardSet (s : CharSet) (f : Footprint) : Footprint :=
  let patterns := s.ranges.flatMap fun (low, high) => Utf8.patterns low high
  let stop := f.states + 1
  let initial : Footprint × Recent := (f.addStates 2, ∅)
  (patterns.foldl (fun (f, recent) pattern => backwardPattern pattern stop f recent) initial).1

/-- Lays out a set. The ranges of a set of ASCII characters lead on from a single state. -/
def addSet (backward : Bool) (s : CharSet) (f : Footprint) : Footprint :=
  if s.isAscii then (f.addStates 1).addRanges s.ranges.length
  else if backward then backwardSet s f
  else forwardSet s f

/-! ## Choices between texts -/

/-- Splits the texts that go on from a place by the texts that end there. Texts before an end are
preferred to it and texts after an end are not, so they are laid out apart. -/
def splitAtEnds (texts : List (List UInt8)) : List (List (List UInt8)) :=
  let (done, current, _) := texts.foldl (fun (done, current, any) text =>
    if !text.isEmpty then (done, current ++ [text], true)
    else if !any && !done.isEmpty then (done, current, any)
    else (done ++ [current], [], any)) (([], [], false) : List (List (List UInt8)) × _ × Bool)
  done ++ [current]

/-- Lays out texts that share their beginnings, down to the given depth. -/
def addTexts : (depth : Nat) → List (List UInt8) → Footprint → Footprint
  | 0, _, f => f
  | depth + 1, texts, f =>
    if texts.all (·.isEmpty) then f
    else
      let parts := splitAtEnds texts
      let f := parts.foldl (fun f part =>
        let heads := (part.filterMap (·.head?)).eraseDups
        let f := heads.foldl (fun f b =>
          addTexts depth ((part.filter (·.head? == some b)).map (·.drop 1)) f) f
        match heads.length with
        | 0 => f
        | 1 => (f.addStates 1).addBranches 1
        | n => (f.addRanges n).addBranches 1) f
      (f.addStates 1).addBranches (parts.length - 1)

/-- The texts of the branches of a choice, if all of them are texts. -/
def textsOf? (r : Regex) : Option (List (List UInt8)) :=
  r.branches.mapM fun branch =>
    match branch with
    | chars cs => some (Literals.bytesOf cs)
    | _ => none

/-- Lays out a choice between texts, which are read from the end if backwards. -/
def addTextChoice (backward : Bool) (texts : List (List UInt8)) (f : Footprint) : Footprint :=
  let texts := if backward then texts.map (·.reverse) else texts
  addTexts ((texts.map (·.length)).foldl max 0 + 1) texts (f.addStates 1)

/-! ## Expressions -/

/-- Lays out a fragment `count` times in a row. The fragment tells whether it ends in a choosing
state, which then leads on to the next one by a further branch. -/
def copies (fragment : Footprint → Bool × Footprint) : (count : Nat) → Footprint → Bool × Footprint
  | 0, f => (false, f.addStates 1)
  | 1, f => fragment f
  | count + 2, f =>
    if f.isOver then (false, f)
    else
      let (choosing, f) := fragment f
      copies fragment (count + 1) (f.addBranches choosing.toNat)

/-- Lays out a fragment `count` times, where each may be left out together with those after it. -/
def options (fragment : Footprint → Bool × Footprint) :
    (count : Nat) → (choosing : Bool) → Footprint → Footprint
  | 0, choosing, f => f.addBranches choosing.toNat
  | count + 1, choosing, f =>
    if f.isOver then f
    else
      let (choosing', f) := fragment (f.addStates 1)
      options fragment count choosing' (f.addBranches (choosing.toNat + 2))

/-- Lays out a repetition of a fragment, which is known to consume a character or not. -/
def addRepetition (fragment : Footprint → Bool × Footprint) (consumes : Bool) (min : Nat)
    (max : Option Nat) (f : Footprint) : Bool × Footprint :=
  match min, max with
  | 0, some 1 =>
    let (choosing, f) := fragment (f.addStates 1)
    (false, (f.addStates 1).addBranches (choosing.toNat + 2))
  | 0, none =>
    if consumes then
      let (choosing, f) := fragment (f.addStates 1)
      (true, f.addBranches (choosing.toNat + 1))
    else
      let (choosing, f) := fragment f
      (false, (f.addStates 3).addBranches (choosing.toNat + 4))
  | 1, none =>
    let (choosing, f) := fragment f
    (true, (f.addStates 1).addBranches (choosing.toNat + 1))
  | min + 1, none =>
    let (before, f) := copies fragment min f
    let (choosing, f) := fragment f
    (true, (f.addStates 1).addBranches (before.toNat + choosing.toNat + 1))
  | min, some max =>
    let (choosing, f) := copies fragment min f
    if min = max then (choosing, f)
    else (false, options fragment (max - min) choosing (f.addStates 1))

/-- Adds what a choice needs for its branch with the given number: the second branch is followed by
the choosing state and the state where the branches meet. -/
def finishBranch (index : Nat) (result : Bool × Footprint) : Footprint :=
  let (choosing, f) := result
  let f := if index = 1 then f.addStates 2 else f
  f.addBranches (choosing.toNat + 1)

mutual

/-- Lays out an expression for one direction of reading, and tells whether it ends in a choosing
state. Groups are only recorded forwards. -/
def addRegex (backward : Bool) : Regex → Footprint → Bool × Footprint
  | .empty, f | .look _, f => (false, f.addStates 1)
  | .chars cs, f => (false, f.addStates (Literals.bytesOf cs).length)
  | .set s, f => (false, addSet backward s f)
  | .group _ body, f =>
    if backward then addRegex backward body f
    else
      let (choosing, f) := addRegex backward body (f.addStates 1)
      (false, (f.addStates 1).addBranches choosing.toNat)
  | .seq a b, f =>
    if backward then
      let (choosing, f) := addRegex backward b f
      addRegex backward a (f.addBranches choosing.toNat)
    else
      let (choosing, f) := addRegex backward a f
      addRegex backward b (f.addBranches choosing.toNat)
  | .alt a b, f =>
    match textsOf? (.alt a b) with
    | some texts => (false, addTextChoice backward texts f)
    | none => (false, addBranchesOf backward 1 b (finishBranch 0 (addRegex backward a f)))
  | .rep _ min max body, f =>
    addRepetition (addRegex backward body) body.consumes min max f

/-- Lays out the branches of a choice from the one with the given number on. -/
def addBranchesOf (backward : Bool) (index : Nat) : Regex → Footprint → Footprint
  | .alt a b, f =>
    addBranchesOf backward (index + 1) b (finishBranch index (addRegex backward a f))
  | r, f => finishBranch index (addRegex backward r f)

end

/-- What precedes an expression: a loop that tries every place of the text, or a single state if
matches have only one place to begin. -/
def start (limit : Nat) (anchored : Bool) : Footprint :=
  let f : Footprint := { limit }
  if anchored then f.addStates 1 else ((f.addStates 2).addRanges 1).addBranches 2

/-- The automaton of an expression that is read forwards. -/
def forward (limit : Nat) (r : Regex) : Footprint :=
  let f := start limit (r.beginsWith .textStart)
  let (choosing, f) := addRegex false r (f.addStates 1)
  (f.addStates 2).addBranches choosing.toNat

/-- The automaton of an expression that is read backwards. -/
def backward (limit : Nat) (r : Regex) : Footprint :=
  let f := start limit (r.endsWith .textEnd)
  let (choosing, f) := addRegex true r f
  (f.addStates 1).addBranches choosing.toNat

end Footprint

/-- Whether an expression keeps within a limit on its memory: literals are searched for without an
automaton, all else needs one for each direction. -/
def fits (limit : Nat) (r : Regex) : Bool :=
  r.isLiteral || (!(Footprint.forward limit r).isOver && !(Footprint.backward limit r).isOver)

end ArtifactPipeline.Regex
