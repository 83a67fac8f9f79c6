import ArtifactPipeline.Text.Case
import ArtifactPipeline.Text.Search
import ArtifactPipeline.Json.Record
import ArtifactPipeline.Json.Value

/-!
# What is asked for

The categories that a request is classified into and how much work it looks like. A name that a
model supplies is read without regard to case and surrounding white space, and an unknown name falls
back to a default, so reading never fails.
-/

namespace ArtifactPipeline

open Text

/-- A name without surrounding white space and in lower case. -/
def normalizeLabel (label : String) : String :=
  String.ofList (lowercase (trim label.toList))

/-- The category of a component. -/
inductive Intent where
  | calculator
  | chart
  | form
  | table
  | dashboard
  | game
  | visualization
  | utility
  | custom
  deriving Repr, DecidableEq, Inhabited

namespace Intent

/-- Every category. -/
def all : List Intent :=
  [calculator, chart, form, table, dashboard, game, visualization, utility, custom]

/-- The name of a category. -/
def label : Intent → String
  | calculator => "calculator"
  | chart => "chart"
  | form => "form"
  | table => "table"
  | dashboard => "dashboard"
  | game => "game"
  | visualization => "visualization"
  | utility => "utility"
  | custom => "custom"

/-- The category that a model names; an unknown name means a custom component. -/
def ofLabel (label : String) : Intent :=
  (all.find? (·.label == normalizeLabel label)).getD custom

/-- The JSON value of a category. -/
def toJson (i : Intent) : Json.Value := .str i.label

/-- Reads the exact name of a category. -/
def ofNode? : Json.Node → Option Intent := Json.Node.oneOf? all label

end Intent

/-- How much work a request looks like. -/
inductive Complexity where
  | simple
  | moderate
  | complex
  deriving Repr, DecidableEq, Inhabited

namespace Complexity

/-- Every degree of complexity. -/
def all : List Complexity := [simple, moderate, complex]

/-- The name of a degree. -/
def label : Complexity → String
  | simple => "simple"
  | moderate => "moderate"
  | complex => "complex"

/-- The degree that a model names; an unknown name means a moderate one. -/
def ofLabel (label : String) : Complexity :=
  (all.find? (·.label == normalizeLabel label)).getD moderate

/-- The JSON value of a degree. -/
def toJson (c : Complexity) : Json.Value := .str c.label

/-- Reads the exact name of a degree. -/
def ofNode? : Json.Node → Option Complexity := Json.Node.oneOf? all label

end Complexity

end ArtifactPipeline
