import ArtifactPipeline.Regex.Basic

/-!
# Programs

A pattern is run as a program: a graph of instructions in which a choice names its first and its
second continuation. The numbering of instructions is the order in which they were laid down, so
every instruction is identified by its index.
-/

namespace ArtifactPipeline.Regex

/-- One instruction. Every index names the instruction to go on with. -/
inductive Inst where
  /-- Reads one character of the set. -/
  | read (s : CharSet) (next : Nat)
  /-- Goes on if the assertion holds here. -/
  | look (l : Look) (next : Nat)
  /-- Records the place under a number: `2 * i` where group `i` starts and `2 * i + 1` where it
  ends. -/
  | mark (slot : Nat) (next : Nat)
  /-- Tries the first continuation, then the second. -/
  | fork (first second : Nat)
  | accept
  deriving Repr, DecidableEq

/-- A program and the instruction at which it begins. -/
structure Program where
  insts : Array Inst
  start : Nat
  deriving Repr, DecidableEq

namespace Program

/-- The program under construction: instructions laid down so far. -/
abbrev Code := Array Inst

/-- A choice that prefers `more` iff greedy. -/
def branch (greedy : Bool) (more done : Nat) : Inst :=
  if greedy then .fork more done else .fork done more

/-- Lays down `count` copies of a fragment one after another, the last one leading to `next`. A
fragment is given by the function that lays it down before a continuation. -/
def copies (fragment : Nat → Code → Nat × Code) : (count : Nat) → Nat → Code → Nat × Code
  | 0, next, code => (next, code)
  | count + 1, next, code =>
    let (entry, code) := copies fragment count next code
    fragment entry code

/-- Lays down `count` optional copies of a fragment, each of which leads to the next one or, when it
is left out, to `done`. -/
def options (greedy : Bool) (fragment : Nat → Code → Nat × Code) (done : Nat) :
    (count : Nat) → Code → Nat × Code
  | 0, code => (done, code)
  | count + 1, code =>
    let (rest, code) := options greedy fragment done count code
    let (entry, code) := fragment rest code
    (code.size, code.push (branch greedy entry done))

/-- Lays down a fragment that is run once and then again while it is wanted. The result is the entry
of the first round and the choice between another round and `next`. -/
def loop (greedy : Bool) (fragment : Nat → Code → Nat × Code) (next : Nat) (code : Code) :
    Nat × Nat × Code :=
  let again := code.size
  let (entry, code) := fragment again (code.push .accept)
  (entry, again, code.set! again (branch greedy entry next))

/-- Lays down an instruction for each character before the continuation `next`. -/
def layChars : List Char → (next : Nat) → Code → Nat × Code
  | [], next, code => (next, code)
  | c :: cs, next, code =>
    let (entry, code) := layChars cs next code
    (code.size, code.push (.read (.single c) entry))

/-- Lays down the instructions of an expression before the continuation `next` and gives the
instruction to begin with. -/
def lay : Regex → (next : Nat) → Code → Nat × Code
  | .empty, next, code => (next, code)
  | .chars cs, next, code => layChars cs next code
  | .set s, next, code => (code.size, code.push (.read s next))
  | .look l, next, code => (code.size, code.push (.look l next))
  | .seq a b, next, code =>
    let (entry, code) := lay b next code
    lay a entry code
  | .alt a b, next, code =>
    let (second, code) := lay b next code
    let (first, code) := lay a next code
    (code.size, code.push (.fork first second))
  | .group i body, next, code =>
    let (entry, code) := lay body code.size (code.push (.mark (2 * i + 1) next))
    (code.size, code.push (.mark (2 * i) entry))
  | .rep greedy min (some max) body, next, code =>
    let (entry, code) := options greedy (lay body) next (max - min) code
    copies (lay body) min entry code
  | .rep greedy 0 none body, next, code =>
    let (entry, again, code) := loop greedy (lay body) next code
    if body.nullable then (code.size, code.push (branch greedy entry next)) else (again, code)
  | .rep greedy (min + 1) none body, next, code =>
    let (entry, _, code) := loop greedy (lay body) next code
    copies (lay body) min entry code

/-- The program of an expression. -/
def ofRegex (r : Regex) : Program :=
  let (start, insts) := lay r 0 #[.accept]
  ⟨insts, start⟩

end Program

end ArtifactPipeline.Regex
