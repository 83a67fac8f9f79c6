import ArtifactPipeline.Json.Node
import ArtifactPipeline.Decimal.Shortest

/-!
# JSON values

The values that JSON text stands for, and their written form: members in order, no blanks, and in
strings only the escapes that are needed.
-/

namespace ArtifactPipeline.Json

open Text

/-- A JSON value. -/
inductive Value where
  | null
  | bool (b : Bool)
  | int (n : Int)
  | float (x : Float)
  | str (s : String)
  | arr (items : List Value)
  | obj (members : List (String × Value))
  deriving Repr, Inhabited

namespace Value

/-- The value of a natural number. -/
def nat (n : Nat) : Value := .int n

/-- The value of an optional part; a missing one is null. -/
def option {α : Type} (f : α → Value) : Option α → Value
  | some a => f a
  | none => .null

/-- The value of a list. -/
def list {α : Type} (f : α → Value) (items : List α) : Value := .arr (items.map f)

/-- The value of an optional text. -/
def text? (s : Option String) : Value := option .str s

end Value

/-! ## Writing -/

/-- The written form of a character inside a string. -/
def escapeChar (c : Char) : List Char :=
  if c == '"' then ['\\', '"']
  else if c == '\\' then ['\\', '\\']
  else if c == '\x08' then ['\\', 'b']
  else if c == '\x0c' then ['\\', 'f']
  else if c == '\n' then ['\\', 'n']
  else if c == '\r' then ['\\', 'r']
  else if c == '\t' then ['\\', 't']
  else if c.toNat < 0x20 then '\\' :: 'u' :: hexDigits 4 c.toNat
  else [c]

/-- The written form of a string. -/
def writeString (s : String) : List Char :=
  '"' :: s.toList.flatMap escapeChar ++ ['"']

/-- The written form of an integer. -/
def writeInt (n : Int) : List Char :=
  if n < 0 then '-' :: Decimal.digitsOf n.natAbs else Decimal.digitsOf n.natAbs

/-- The written form of a floating-point number. What is not a number is null. -/
def writeFloat (x : Float) : List Char :=
  let sign := if Decimal.isNegative x then ['-'] else []
  match Decimal.shape x with
  | .finite m =>
    sign ++ (if m.mantissa == 0 then ['0', '.', '0'] else (m.shortest .even).scientific)
  | _ => ['n', 'u', 'l', 'l']

mutual

/-- The written form of a value. -/
def Value.write : Value → List Char
  | .null => ['n', 'u', 'l', 'l']
  | .bool true => ['t', 'r', 'u', 'e']
  | .bool false => ['f', 'a', 'l', 's', 'e']
  | .int n => writeInt n
  | .float x => writeFloat x
  | .str s => writeString s
  | .arr items => '[' :: Value.writeItems items ++ [']']
  | .obj members => '\x7b' :: Value.writeMembers members ++ ['\x7d']

/-- The written forms of the items of an array, separated by commas. -/
def Value.writeItems : List Value → List Char
  | [] => []
  | [v] => v.write
  | v :: rest => v.write ++ ',' :: Value.writeItems rest

/-- The written forms of the members of an object, separated by commas. -/
def Value.writeMembers : List (String × Value) → List Char
  | [] => []
  | [(name, v)] => writeString name ++ ':' :: v.write
  | (name, v) :: rest => writeString name ++ ':' :: v.write ++ ',' :: Value.writeMembers rest

end

/-- The text of a value. -/
def Value.toText (v : Value) : String := String.ofList v.write

/-! ## From text to values -/

/-- Puts a member into an object. A later member replaces an earlier one of the same name. -/
def putMember (name : String) (v : Value) : List (String × Value) → List (String × Value)
  | [] => [(name, v)]
  | (other, w) :: rest =>
    if other == name then (name, v) :: rest else (other, w) :: putMember name v rest

mutual

/-- The value of a text; `none` if a number is too large, a surrogate has no partner, or arrays and
objects are nested `depth` deep. -/
def Node.value? (depth : Nat) : Node → Option Value
  | .null => some .null
  | .bool b => some (.bool b)
  | .num n => match n.value? with
    | some (.int n) => some (.int n)
    | some (.float x) => some (.float x)
    | none => none
  | .str s => s.map .str
  | .arr items => if depth ≤ 1 then none else (Node.values? (depth - 1) items).map .arr
  | .obj members =>
    if depth ≤ 1 then none else (Node.members? (depth - 1) [] members).map .obj

/-- The values of the items of an array. -/
def Node.values? (depth : Nat) : List Node → Option (List Value)
  | [] => some []
  | node :: rest =>
    match node.value? depth, Node.values? depth rest with
    | some v, some vs => some (v :: vs)
    | _, _ => none

/-- The members of an object, added to those already known. -/
def Node.members? (depth : Nat) (known : List (String × Value)) :
    List (Option String × Node) → Option (List (String × Value))
  | [] => some known
  | (name, node) :: rest =>
    match name, node.value? depth with
    | some name, some v => Node.members? depth (putMember name v known) rest
    | _, _ => none

end

end ArtifactPipeline.Json
