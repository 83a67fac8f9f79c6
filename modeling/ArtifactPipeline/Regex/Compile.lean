import ArtifactPipeline.Regex.Footprint
import ArtifactPipeline.Regex.Parser
import ArtifactPipeline.Regex.Search

/-!
# Compiling patterns

A pattern is compiled under a limit on the memory that it takes. The memory is counted before the
program is laid out, so a pattern with huge repetition counts is refused at once.
-/

namespace ArtifactPipeline.Regex

/-- The program of a pattern, if the text is a pattern and keeps within the limit. -/
def compile? (limit : Nat) (pattern : String) : Option Program :=
  match parse pattern with
  | .ok r => if r.fits limit then some (Program.ofRegex r) else none
  | .error _ => none

end ArtifactPipeline.Regex
