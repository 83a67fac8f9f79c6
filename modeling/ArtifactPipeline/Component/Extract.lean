import ArtifactPipeline.Regex.Search
import ArtifactPipeline.Text.Search

/-!
# Code in a reply

A model wraps its code in a fenced block with the tag of a language. The code of a reply is the
inside of the first such block, without the line break before the closing fence, or the whole reply
if there is no block. The prose is what precedes the block.
-/

namespace ArtifactPipeline.Component

open Text Regex

/-- Three backticks. -/
def fence : Regex := literal "```"

/-- A tag of a language. A longer tag comes before its own beginning. -/
def languageTag : Regex :=
  choice (["tsx", "jsx", "typescript", "javascript", "ts", "js"].map literal)

/-- A fenced block whose tag is that of a language. Group 1 is its inside. -/
def fencedBlock : Regex :=
  concat [fence, languageTag, look .wordBoundary, star (set (.compl (.single '\n'))), literal "\n",
    group 1 (lazyStar (set .all)), opt (literal "\n"), fence]

/-- The program that searches for a fenced block. -/
def fencedBlockProgram : Program := Program.ofRegex fencedBlock

/-- The start of the first fenced block and the ends of its inside. -/
def findBlock? (reply : List Char) : Option (Nat × Nat × Nat) := do
  let m ← fencedBlockProgram.find? reply
  let (start, stop) ← m.group? 1
  return (m.start, start, stop)

/-- The code that a reply carries. -/
def extractCode (reply : List Char) : List Char :=
  match findBlock? reply with
  | some (_, start, stop) => (reply.drop start).take (stop - start)
  | none => trim reply

/-- The prose before the first fenced block. -/
def leadingProse (reply : List Char) : List Char :=
  match findBlock? reply with
  | some (start, _, _) => trim (reply.take start)
  | none => []

end ArtifactPipeline.Component
