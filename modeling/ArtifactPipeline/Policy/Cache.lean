import ArtifactPipeline.Regex.Compile

/-!
# Compiled patterns

Patterns are compiled when they are first asked for, and the outcome is kept, also that a pattern
does not compile.
-/

namespace ArtifactPipeline

open Regex

/-- The patterns compiled so far under a limit on the memory of a program. -/
structure RegexCache where
  limit : Nat
  compiled : List (String × Option Program) := []

namespace RegexCache

/-- The program of a pattern, if it compiles. -/
def get (c : RegexCache) (pattern : String) : Option Program × RegexCache :=
  match c.compiled.lookup pattern with
  | some known => (known, c)
  | none =>
    let program := compile? c.limit pattern
    (program, { c with compiled := (pattern, program) :: c.compiled })

/-- How many patterns have been asked for. -/
def size (c : RegexCache) : Nat := c.compiled.length

/-- Whether no pattern has been asked for. -/
def isEmpty (c : RegexCache) : Bool := c.compiled.isEmpty

end RegexCache

end ArtifactPipeline
