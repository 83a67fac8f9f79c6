import ArtifactPipeline.Plan.Intent

/-!
# Steps and budgets

The steps of a plan and the token budget of the generation are fixed by the classification.
-/

namespace ArtifactPipeline

namespace Plan

/-- The steps for a hierarchy of components. -/
def hierarchySteps : List String := [
  "Define the component hierarchy and the props each child receives",
  "Model the shared state and decide which component owns it",
  "Build the leaf presentational components",
  "Compose the container components and pass state down through props",
  "Add event handlers and derived values",
  "Style every component with Tailwind utility classes",
  "Export the root component as the default export"]

/-- The steps for showing data. -/
def visualizationSteps : List String := [
  "Define the data shape and realistic sample data",
  "Choose the chart type and configure axes, tooltip and legend",
  "Render the chart with recharts components inside a responsive container",
  "Add controls for filtering or switching the displayed series",
  "Style the layout with Tailwind utility classes"]

/-- The steps for an input form. -/
def formSteps : List String := [
  "Define the form fields and their initial state",
  "Render labelled inputs bound to state",
  "Validate input and show inline error messages",
  "Handle submission and show a confirmation state",
  "Style the form with Tailwind utility classes"]

/-- The steps for anything else. -/
def genericSteps : List String := [
  "Define the component state",
  "Implement the core logic",
  "Render the user interface",
  "Wire up event handlers",
  "Style with Tailwind utility classes"]

/-- The steps for a classified request. -/
def stepsFor : Intent → Complexity → List String
  | _, .complex => hierarchySteps
  | .chart, _ | .visualization, _ => visualizationSteps
  | .form, _ => formSteps
  | _, _ => genericSteps

end Plan

/-- The token budget for generating a component. -/
def Complexity.tokenBudget : Complexity → Nat
  | simple => 2000
  | moderate => 4000
  | complex => 8000

end ArtifactPipeline
