import ArtifactPipeline.Regex.Basic

/-!
# Normal form

Constructors that keep expressions simple: neighbouring characters are one text, sequences and
choices are flat, a choice between single characters is a set, and what all branches begin with
stands before the choice. The meaning stays, and the program becomes smaller.
-/

namespace ArtifactPipeline.Regex

/-- The parts of a sequence. -/
def parts : Regex → List Regex
  | empty => []
  | seq a b => a :: b.parts
  | r => [r]

/-- The branches of a choice. -/
def branches : Regex → List Regex
  | alt a b => a :: b.branches
  | r => [r]

/-- A set, as a character if it has only one member. -/
def ofSet (s : CharSet) : Regex :=
  match s.onlyMember? with
  | some c => chars [c]
  | none => set s

/-- Joins neighbouring texts. -/
def joinChars : List Regex → List Regex
  | [] => []
  | chars cs :: rest =>
    match joinChars rest with
    | chars more :: rest => chars (cs ++ more) :: rest
    | rest => chars cs :: rest
  | r :: rest => r :: joinChars rest

/-- The sequence of parts in normal form. -/
def sequence (rs : List Regex) : Regex :=
  concat (joinChars (rs.flatMap parts))

/-- The character of a text of length one. -/
def onlyChar? : Regex → Option Char
  | chars [c] => some c
  | _ => none

/-- The set of an expression that is one. -/
def onlySet? : Regex → Option CharSet
  | set s => some s
  | _ => none

/-- The set that a choice between single characters or between sets comes to. -/
def setOfBranches? (rs : List Regex) : Option CharSet :=
  match rs.mapM onlyChar? with
  | some cs => some (.ofList cs)
  | none => (rs.mapM onlySet?).map fun sets => ⟨.ofList (sets.flatMap (·.ranges))⟩

/-- The longest list with which both lists begin. -/
def commonStart : List Regex → List Regex → List Regex
  | a :: as, b :: bs => if a = b then a :: commonStart as bs else []
  | _, _ => []

/-- The parts with which all branches begin, where every branch is a sequence. -/
def commonParts : List Regex → List Regex
  | [] => []
  | r :: rs =>
    if (r :: rs).all fun r => 2 ≤ r.parts.length then
      rs.foldl (fun start r => commonStart start r.parts) r.parts
    else []

/-- The choice between branches in normal form. Every common start that is taken out of the branches
makes them smaller, and `fuel` bounds how often this is done. -/
def chooseWith : (fuel : Nat) → List Regex → Regex
  | fuel, rs =>
    let rs := rs.flatMap branches
    match rs with
    | [r] => r
    | rs =>
      match setOfBranches? rs with
      | some s => ofSet s
      | none =>
        let start := commonParts rs
        match fuel with
        | 0 => choice rs
        | fuel + 1 =>
          if start.isEmpty then choice rs
          else
            let rests := rs.map fun r => sequence (r.parts.drop start.length)
            sequence (start ++ [chooseWith fuel rests])

/-- The number of constructors of an expression. -/
def size : Regex → Nat
  | empty | chars _ | set _ | look _ => 1
  | seq a b | alt a b => a.size + b.size + 1
  | rep _ _ _ body | group _ body => body.size + 1

/-- The choice between branches in normal form. -/
def choose (rs : List Regex) : Regex :=
  chooseWith ((rs.map size).foldl (· + ·) 0) rs

/-- A repetition in normal form: a body that matches only the empty text needs at most one round,
no round is the empty expression, and exactly one round is the body itself. -/
def repeated (greedy : Bool) (min : Nat) (max : Option Nat) (body : Regex) : Regex :=
  let (min, max) := if body.onlyEmpty then (Nat.min min 1, some ((max.getD 1).min 1))
    else (min, max)
  if min == 0 && max == some 0 then empty
  else if min == 1 && max == some 1 then body
  else rep greedy min max body

end ArtifactPipeline.Regex
