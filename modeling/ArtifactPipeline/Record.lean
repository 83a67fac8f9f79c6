/-!
# Records

A record is written with the names of its parts or, without names, as the list of its parts in
order. Parts with other names are passed over, and a name that the record knows may occur only once.
The form in which a single part is written is left open.
-/

namespace ArtifactPipeline

/-- The parts of a record as they are written. -/
structure Record (ν : Type) where
  /-- Whether the parts are told apart by their position. -/
  positional : Bool
  parts : List (String × ν)

namespace Record

variable {ν α : Type}

/-- Whether a list of names holds none twice. -/
def distinct : List String → Bool
  | [] => true
  | name :: rest => !rest.contains name && distinct rest

/-- The record with the given names whose parts are written with names. -/
def ofMembers? (names : List String) (members : List (String × ν)) : Option (Record ν) :=
  let parts := members.filter fun part => names.contains part.1
  if distinct (parts.map (·.1)) then some ⟨false, parts⟩ else none

/-- The record with the given names whose parts are written in order. -/
def ofItems? (names : List String) (items : List ν) : Option (Record ν) :=
  if items.length ≤ names.length then some ⟨true, names.zip items⟩ else none

/-- What is written for a part. -/
def get? (r : Record ν) (name : String) : Option ν := r.parts.lookup name

/-- A part that must be present. -/
def required (r : Record ν) (name : String) (read : ν → Option α) : Option α :=
  (r.get? name).bind read

/-- A part that has a default value. -/
def withDefault (r : Record ν) (name : String) (default : α) (read : ν → Option α) : Option α :=
  match r.get? name with
  | none => some default
  | some node => read node

/-- A part that may be missing where parts have names. -/
def possible (r : Record ν) (name : String) (read : ν → Option (Option α)) :
    Option (Option α) :=
  match r.get? name with
  | none => if r.positional then none else some none
  | some node => read node

end Record

end ArtifactPipeline
