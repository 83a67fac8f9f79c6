import ArtifactPipeline.Json.Value
import ArtifactPipeline.Record

/-!
# Reading typed values

How records, names, numbers, texts and lists are read from JSON text. A record is an object, or an
array of its parts in order.
-/

namespace ArtifactPipeline

namespace Record

open Json

variable {α : Type}

/-- Reads the parts of a record with the given names. -/
def ofNode? (names : List String) : Node → Option (Record Node)
  | .obj members => do
    ofMembers? names (← members.mapM fun (name, node) => name.map (·, node))
  | .arr items => ofItems? names items
  | _ => none

/-- Reads null as nothing. -/
def nullable (read : Node → Option α) : Node → Option (Option α)
  | .null => some none
  | node => (read node).map some

/-- A part that may be null, and may be missing where parts have names. -/
def optional (r : Record Node) (name : String) (read : Node → Option α) : Option (Option α) :=
  r.possible name (nullable read)

/-- A part that may be null or missing. -/
def omissible (r : Record Node) (name : String) (read : Node → Option α) : Option (Option α) :=
  r.withDefault name none (nullable read)

end Record

namespace Json

namespace Node

/-- A text. -/
def text? : Node → Option String
  | .str s => s
  | _ => none

/-- A truth value. -/
def bool? : Node → Option Bool
  | .bool b => some b
  | _ => none

/-- An integer that is not negative and below the bound. -/
def natBelow? (bound : Nat) : Node → Option Nat
  | .num n => match n.value? with
    | some (.int (.ofNat n)) => if n < bound then some n else none
    | _ => none
  | _ => none

/-- An unsigned integer of 32 bits. -/
def nat32? : Node → Option Nat := natBelow? (Nat.pow 2 32)

/-- An unsigned integer of 64 bits. -/
def nat64? : Node → Option Nat := natBelow? (Nat.pow 2 64)

/-- A machine word, written as its number. -/
def word? (node : Node) : Option UInt64 := node.nat64?.map UInt64.ofNat

/-- A double-precision number, which may be written as an integer. -/
def float? : Node → Option Float
  | .num n => match n.value? with
    | some (.int n) => some (.ofInt n)
    | some (.float x) => some x
    | none => none
  | _ => none

/-- A single-precision number, which may be written as an integer. -/
def float32? : Node → Option Float32
  | .num n => match n.value? with
    | some (.int n) => some (.ofInt n)
    | some (.float x) => some x.toFloat32
    | none => none
  | _ => none

/-- A list whose items are all readable. -/
def list? {α : Type} (read : Node → Option α) : Node → Option (List α)
  | .arr items => items.mapM read
  | _ => none

/-- The name of a case, written as a text or as an object that maps the name to null. -/
def label? : Node → Option String
  | .str s => s
  | .obj [(name, .null)] => name
  | _ => none

/-- The case with the written name, out of all cases of a type. -/
def oneOf? {α : Type} (all : List α) (label : α → String) (node : Node) : Option α :=
  node.label?.bind fun name => all.find? (label · == name)

end Node

end Json

end ArtifactPipeline
