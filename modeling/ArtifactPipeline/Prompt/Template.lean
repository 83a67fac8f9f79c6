import ArtifactPipeline.Text.Search

/-!
# Templates

A template holds placeholders, names in double braces. They are filled one name after another, each
wherever it stands in the text that has been filled so far.
-/

namespace ArtifactPipeline.Template

open Text

/-- The placeholder of a name. -/
def placeholder (name : String) : List Char :=
  '\x7b' :: '\x7b' :: name.toList ++ ['\x7d', '\x7d']

/-- Fills the placeholders of one name. -/
def fill (text : List Char) (value : String × String) : List Char :=
  replaceAll (placeholder value.1) value.2.toList text

/-- Fills the placeholders of all names in order. -/
def render (template : String) (values : List (String × String)) : String :=
  String.ofList (values.foldl fill template.toList)

end ArtifactPipeline.Template
