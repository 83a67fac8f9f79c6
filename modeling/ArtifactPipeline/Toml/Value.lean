import ArtifactPipeline.Record

/-!
# TOML values

The values that a TOML text describes, and the rules for adding to tables. A table remembers how it
came about, since that decides whether it may be extended or named again.
-/

namespace ArtifactPipeline.Toml

/-- How a table came about. -/
inductive Origin where
  /-- It lies on the way to a table with a header. -/
  | implicit
  /-- It has a header of its own. -/
  | header
  /-- It lies on the way to a dotted key. -/
  | dotted
  /-- It is written in braces. -/
  | inline
  deriving Repr, DecidableEq

/-- A TOML value. -/
inductive Value where
  | str (s : String)
  | int (n : Int)
  | float (x : Float)
  | bool (b : Bool)
  /-- A number outside of every range that can be held. -/
  | excess
  /-- A date, a time or both. -/
  | moment
  | arr (items : List Value)
  | table (origin : Origin) (entries : List (String × Value))
  /-- Tables whose headers have the same name, latest first. -/
  | tables (latest : List (String × Value)) (earlier : List (List (String × Value)))
  deriving Repr, Inhabited

/-- The content of a table. -/
abbrev Entries := List (String × Value)

namespace Entries

/-- Puts a value in the place of the one with the same name, or else at the end. -/
def set (name : String) (v : Value) : Entries → Entries
  | [] => [(name, v)]
  | (other, w) :: rest =>
    if other == name then (name, v) :: rest else (other, w) :: Entries.set name v rest

/-- Adds a value under a dotted key. The tables on the way must not have headers or braces, but of
several tables with one name the latest may be passed. The value itself goes into the table where
the key begins or into one that dotted keys have made, as `mayEnd` tells. -/
def putDotted (v : Value) (mayEnd : Bool) : List String → Entries → Option Entries
  | [], _ => none
  | [name], es => if mayEnd && (es.lookup name).isNone then some (es ++ [(name, v)]) else none
  | name :: path, es =>
    match es.lookup name with
    | none =>
      (putDotted v true path []).map fun inner => Entries.set name (.table .dotted inner) es
    | some (.table .dotted inner) =>
      (putDotted v true path inner).map fun inner => Entries.set name (.table .dotted inner) es
    | some (.table .implicit inner) =>
      (putDotted v false path inner).map fun inner => Entries.set name (.table .implicit inner) es
    | some (.tables latest earlier) =>
      (putDotted v false path latest).map fun latest => Entries.set name (.tables latest earlier) es
    | some _ => none

/-- Changes the table that a header names from the place where its last name stands. Of several
tables with one name the latest is meant. -/
def along (change : String → Entries → Option Entries) : List String → Entries → Option Entries
  | [], _ => none
  | [name], es => change name es
  | name :: path, es =>
    match es.lookup name with
    | none =>
      (along change path []).map fun inner => Entries.set name (.table .implicit inner) es
    | some (.table .inline _) => none
    | some (.table origin inner) =>
      (along change path inner).map fun inner => Entries.set name (.table origin inner) es
    | some (.tables latest earlier) =>
      (along change path latest).map fun latest => Entries.set name (.tables latest earlier) es
    | some _ => none

/-- Begins a table with a header. -/
def openTable : List String → Entries → Option Entries :=
  along fun name es =>
    match es.lookup name with
    | none => some (es ++ [(name, .table .header [])])
    | some (.table .implicit inner) => some (Entries.set name (.table .header inner) es)
    | some _ => none

/-- Begins one more of the tables with a common name. -/
def openItem : List String → Entries → Option Entries :=
  along fun name es =>
    match es.lookup name with
    | none => some (es ++ [(name, .tables [] [])])
    | some (.tables latest earlier) =>
      some (Entries.set name (.tables [] (latest :: earlier)) es)
    | some _ => none

/-- Adds a value under a dotted key to the table that a header has begun. -/
def put (header key : List String) (v : Value) (es : Entries) : Option Entries :=
  if header.isEmpty then putDotted v true key es
  else
    along (fun name es =>
      match es.lookup name with
      | some (.table origin inner) =>
        (putDotted v true key inner).map fun inner => Entries.set name (.table origin inner) es
      | some (.tables latest earlier) =>
        (putDotted v true key latest).map fun latest => Entries.set name (.tables latest earlier) es
      | _ => none) header es

end Entries

mutual

/-- Whether every number in a value can be held. -/
def Value.isHeld : Value → Bool
  | .excess => false
  | .arr items => itemsAreHeld items
  | .table _ entries => entriesAreHeld entries
  | .tables latest earlier => entriesAreHeld latest && tablesAreHeld earlier
  | _ => true

/-- Whether every number in the items of an array can be held. -/
def itemsAreHeld : List Value → Bool
  | [] => true
  | v :: rest => v.isHeld && itemsAreHeld rest

/-- Whether every number in the entries of a table can be held. -/
def entriesAreHeld : List (String × Value) → Bool
  | [] => true
  | (_, v) :: rest => v.isHeld && entriesAreHeld rest

/-- Whether every number in several tables can be held. -/
def tablesAreHeld : List (List (String × Value)) → Bool
  | [] => true
  | entries :: rest => entriesAreHeld entries && tablesAreHeld rest

end

/-- The parts of a record in a table. Entries that the record does not know are passed over, but
their numbers must be such that they can be held. -/
def Entries.record? (names : List String) (es : Entries) : Option (Record Value) :=
  if es.all fun (name, v) => names.contains name || v.isHeld then Record.ofMembers? names es
  else none

/-- Whether an integer can be held in some bits with or without a sign. -/
def fitsBits (bits : Nat) (n : Int) : Bool :=
  -(Nat.pow 2 (bits - 1) : Int) ≤ n && n < (Nat.pow 2 bits : Int)

namespace Value

/-- The parts of a record: a table, or a list that begins with the parts in order. A date counts as
a table without any part that a record knows. -/
def record? (names : List String) : Value → Option (Record Value)
  | table _ entries => Entries.record? names entries
  | arr items => Record.ofItems? names (items.take names.length)
  | moment => some ⟨false, []⟩
  | _ => none

/-- A text. -/
def text? : Value → Option String
  | str s => some s
  | _ => none

/-- An integer that is not negative and below the bound. -/
def natBelow? (bound : Nat) : Value → Option Nat
  | int (.ofNat n) => if n < bound then some n else none
  | _ => none

/-- A single-precision number, which may be written as an integer of 64 bits with or without a
sign. -/
def float32? : Value → Option Float32
  | int n => if fitsBits 64 n then some (.ofInt n) else none
  | float x => some x.toFloat32
  | _ => none

end Value

end ArtifactPipeline.Toml
