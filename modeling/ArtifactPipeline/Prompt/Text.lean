import ArtifactPipeline.Failure
import ArtifactPipeline.Text.Search

/-!
# Prompts

The instructions that go to the models: one prompt for classifying a request, one for generating a
component and one for repairing it. Each is kept in a markdown document that says how it is used, and
is the last section of it.
-/

namespace ArtifactPipeline.Prompt

open Text

/-- The instructions for classifying a request. -/
def classification : String :=
  join "\n" [
    "You classify requests for self-contained React UI components.",
    "",
    "Respond with ONLY a JSON object of this shape:",
    "",
    "\x7b",
    "  \"intent\": \"calculator | chart | form | table | dashboard | game | " ++
      "visualization | utility | custom\",",
    "  \"complexity\": \"simple | moderate | complex\",",
    "  \"key_features\": [\"short feature description\", \"...\"],",
    "  \"suggested_dependencies\": [\"npm package name\", \"...\"],",
    "  \"estimated_lines\": 120",
    "\x7d",
    "",
    "Rules:",
    "- \"intent\" must be exactly one of the listed values. Use \"custom\" when nothing fits.",
    "- \"simple\" means one widget with little state. " ++
      "\"complex\" means several components sharing state.",
    "- Only suggest dependencies from: react, lucide-react, recharts, date-fns, clsx, " ++
      "framer-motion.",
    "- Do not include explanations, markdown or code."]

/-- The instructions for generating a component. -/
def generation : String :=
  join "\n" [
    "You write a single self-contained React component in TypeScript (TSX).",
    "",
    "Hard constraints. Code that breaks any of these is rejected:",
    "1. Only import from these packages: \x7b\x7ballowed_imports\x7d\x7d. " ++
      "No other imports, no relative imports.",
    "2. Style exclusively with Tailwind utility classes. No CSS files, no inline style objects.",
    "3. The file must not exceed \x7b\x7bmax_lines\x7d\x7d lines.",
    "4. Never use eval, new Function, innerHTML, dangerouslySetInnerHTML or document.write.",
    "5. No network access (fetch, XMLHttpRequest, WebSocket) and no browser storage",
    "   (localStorage, sessionStorage, indexedDB, cookies).",
    "6. Export the component as the default export.",
    "",
    "Component category: \x7b\x7bintent\x7d\x7d (\x7b\x7bcomplexity\x7d\x7d).",
    "",
    "Follow these steps:",
    "\x7b\x7bsteps\x7d\x7d",
    "",
    "Key features to include:",
    "\x7b\x7bfeatures\x7d\x7d",
    "",
    "Return the complete component in one fenced ```tsx code block and nothing else."]

/-- The instructions for repairing a component. -/
def repair : String :=
  join "\n" [
    "The following React component failed automated policy validation.",
    "This is repair attempt \x7b\x7battempt\x7d\x7d of \x7b\x7bmax_attempts\x7d\x7d.",
    "",
    "Validation errors:",
    "\x7b\x7berrors\x7d\x7d",
    "",
    "Previous failed attempts (do not repeat these fixes):",
    "\x7b\x7bprevious_attempts\x7d\x7d",
    "",
    "Change ONLY what is necessary to resolve the errors above. Keep the diff minimal,",
    "preserve the component's behaviour and structure, and do not introduce new imports",
    "outside the existing allowlist.",
    "",
    "Code:",
    "```tsx",
    "\x7b\x7bcode\x7d\x7d",
    "```",
    "",
    "Start with one or two sentences describing the fix, then return the full corrected",
    "component in one fenced ```tsx code block."]

/-- The heading of the section that holds a prompt. -/
def heading : String := "## Prompt"

/-- What the document says about classifying a request before it gives the instructions. -/
def classificationUsage : List String := [
  "# Classification Prompt",
  "",
  "## Usage",
  "",
  "**When used:** First phase of every session, before any code is generated.",
  "",
  "**Purpose:** Turns a free-text component request into a structured classification",
  "that the planner uses to pick a model tier, step template and token budget.",
  "",
  "**Input:** The user's request is sent as the user message.",
  "",
  "**Output:** A single JSON object. Anything outside the first `\x7b` and last `\x7d` is ignored.",
  ""]

/-- The document with the instructions for classifying a request. -/
def classificationDocument : String :=
  join "\n" (classificationUsage ++ [heading, "", classification, ""])

/-- What the document says about generating a component before it gives the instructions. -/
def generationUsage : List String := [
  "# Generation Prompt",
  "",
  "## Usage",
  "",
  "**When used:** Once per session, after planning, to produce the component.",
  "",
  "**Purpose:** Constrains the model to code the validator will accept on the first try.",
  "",
  "**Placeholders:** `\x7b\x7ballowed_imports\x7d\x7d`, `\x7b\x7bmax_lines\x7d\x7d`, " ++
    "`\x7b\x7bintent\x7d\x7d`, `\x7b\x7bcomplexity\x7d\x7d`,",
  "`\x7b\x7bsteps\x7d\x7d`, `\x7b\x7bfeatures\x7d\x7d`.",
  ""]

/-- The document with the instructions for generating a component. -/
def generationDocument : String :=
  join "\n" (generationUsage ++ [heading, "", generation, ""])

/-- What the document says about repairing a component before it gives the instructions. -/
def repairUsage : List String := [
  "# Reflexion Prompt",
  "",
  "## Usage",
  "",
  "**When used:** After validation rejects an artifact and attempts remain.",
  "",
  "**Purpose:** Repairs the listed violations without rewriting working code.",
  "",
  "**Placeholders:** `\x7b\x7battempt\x7d\x7d`, `\x7b\x7bmax_attempts\x7d\x7d`, " ++
    "`\x7b\x7berrors\x7d\x7d`, `\x7b\x7bprevious_attempts\x7d\x7d`, `\x7b\x7bcode\x7d\x7d`.",
  ""]

/-- The document with the instructions for repairing a component. -/
def repairDocument : String :=
  join "\n" (repairUsage ++ [heading, "", repair, ""])

/-- The prompt in a document: what stands below the line of the first heading of a prompt, up to the
end of the document, without the white space around it. -/
def extract (document : String) : Except Failure String :=
  match indexOf? heading.toList document.toList with
  | none => .error (.config "Prompt section not found")
  | some start =>
    let fromHeading := document.toList.drop start
    match indexOf? ['\n'] fromHeading with
    | none => .error (.config "Invalid prompt format")
    | some lineEnd => .ok (String.ofList (trim (fromHeading.drop (lineEnd + 1))))

/-- The prompt with a given name. -/
def named (name : String) : Except Failure String :=
  match name with
  | "classification" => extract classificationDocument
  | "generation" => extract generationDocument
  | "reflexion" => extract repairDocument
  | _ => .error (.config ("Unknown prompt: " ++ name))

end ArtifactPipeline.Prompt
