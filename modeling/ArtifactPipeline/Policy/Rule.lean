import ArtifactPipeline.Text.Search
import ArtifactPipeline.Json.Record
import ArtifactPipeline.Json.Value

/-!
# Rules

A rule is a named check of source text with a severity. It may be switched off, and it may be
limited to one tenant. The module also holds the standard rules and the packages that every tenant
may import.
-/

namespace ArtifactPipeline

open Json

/-- How strongly a rule is enforced. -/
inductive Severity where
  /-- A component that fails the rule is invalid. -/
  | block
  /-- A failure is reported. -/
  | warn
  /-- A failure is only recorded. -/
  | log
  deriving Repr, DecidableEq, Inhabited

namespace Severity

/-- Every severity. -/
def all : List Severity := [block, warn, log]

/-- The name of a severity. -/
def label : Severity → String
  | block => "block"
  | warn => "warn"
  | log => "log"

/-- The JSON value of a severity. -/
def toJson (s : Severity) : Value := .str s.label

/-- Reads the name of a severity. -/
def ofNode? : Node → Option Severity := Node.oneOf? all label

end Severity

/-- A size of source text. -/
inductive Metric where
  | lineCount
  | charCount
  deriving Repr, DecidableEq, Inhabited

namespace Metric

/-- Every metric. -/
def all : List Metric := [lineCount, charCount]

/-- The name of a metric. -/
def label : Metric → String
  | lineCount => "line_count"
  | charCount => "char_count"

/-- What a metric counts. -/
def unit : Metric → String
  | lineCount => "lines"
  | charCount => "characters"

/-- The size of a text. -/
def measure : Metric → List Char → Nat
  | lineCount, code => Text.lineCount code
  | charCount, code => code.length

/-- The JSON value of a metric. -/
def toJson (m : Metric) : Value := .str m.label

/-- Reads the name of a metric. -/
def ofNode? : Node → Option Metric := Node.oneOf? all label

/-- Reads the name of a metric within a check, where an object that maps the name to an empty object
is accepted as well. -/
def ofPart? : Node → Option Metric
  | .obj [(name, .obj [])] => ofNode? (.str name)
  | node => ofNode? node

end Metric

/-- What a rule checks. -/
inductive RuleKind where
  /-- Fails where the pattern occurs. -/
  | pattern (pattern : String)
  /-- Fails on an import from a package that the tenant may not use. -/
  | dependencyAllowlist
  /-- Fails when the text is larger than the limit. -/
  | resourceLimit (metric : Metric) (max : Nat)
  deriving Repr, DecidableEq, Inhabited

/-- A named check. -/
structure Rule where
  name : String
  kind : RuleKind
  severity : Severity
  /-- What to say when the rule fails. -/
  message : Option String := none
  enabled : Bool := true
  /-- The tenant that the rule is limited to. -/
  tenant : Option String := none
  deriving Repr, DecidableEq

namespace RuleKind

/-- The JSON value of a check; the member `type` tells which one it is. -/
def toJson : RuleKind → Value
  | pattern p => .obj [("type", .str "pattern"), ("pattern", .str p)]
  | dependencyAllowlist => .obj [("type", .str "dependency_allowlist")]
  | resourceLimit metric max =>
    .obj [("type", .str "resource_limit"), ("metric", metric.toJson), ("max", .nat max)]

/-- Reads the parts of a check with a known type. In a list there must not be more of them than the
check has. -/
def ofParts? (type : String) (parts : Node) : Option RuleKind := do
  match type with
  | "pattern" =>
    let r ← Record.ofNode? ["pattern"] parts
    return pattern (← r.required "pattern" Node.text?)
  | "dependency_allowlist" =>
    match parts with
    | .arr (_ :: _) => none
    | _ => return dependencyAllowlist
  | "resource_limit" =>
    let r ← Record.ofNode? ["metric", "max"] parts
    return resourceLimit (← r.required "metric" Metric.ofPart?) (← r.required "max" Node.nat64?)
  | _ => none

/-- How deeply the parts of a check may be nested. -/
def depthLimit : Nat := 127

/-- Reads a check: an object with a member `type`, or an array that begins with the type. All parts
must have a value, also those that the check does not know. -/
def ofNode? (node : Node) : Option RuleKind := do
  let _ ← node.value? depthLimit
  match node with
  | .obj members =>
    let tags := members.filter (·.1 == some "type")
    let others := members.filter (·.1 != some "type")
    match tags with
    | [(_, tag)] => ofParts? (← tag.text?) (.obj others)
    | _ => none
  | .arr (tag :: rest) => ofParts? (← tag.text?) (.arr rest)
  | _ => none

end RuleKind

namespace Rule

/-- Whether the rule is in force for a tenant. -/
def appliesTo (r : Rule) (tenant : String) : Bool :=
  r.enabled && r.tenant.all (· == tenant)

/-- The JSON value of a rule. -/
def toJson (r : Rule) : Value :=
  .obj [
    ("name", .str r.name),
    ("kind", r.kind.toJson),
    ("severity", r.severity.toJson),
    ("error_message", .text? r.message),
    ("enabled", .bool r.enabled),
    ("tenant_id", .text? r.tenant)]

/-- The names of the parts of a rule. -/
def partNames : List String :=
  ["name", "kind", "severity", "error_message", "enabled", "tenant_id"]

/-- Reads a rule. -/
def ofNode? (node : Node) : Option Rule := do
  let r ← Record.ofNode? partNames node
  return {
    name := ← r.required "name" Node.text?
    kind := ← r.required "kind" RuleKind.ofNode?
    severity := ← r.required "severity" Severity.ofNode?
    message := ← r.omissible "error_message" Node.text?
    enabled := ← r.withDefault "enabled" true Node.bool?
    tenant := ← r.omissible "tenant_id" Node.text? }

end Rule

/-- The packages that every tenant may import. -/
def defaultAllowlist : List String :=
  ["react", "lucide-react", "recharts", "date-fns", "clsx", "framer-motion"]

/-- The standard rules with a limit on the number of lines. -/
def defaultRules (maxLines : Nat) : List Rule := [
  { name := "max_lines", kind := .resourceLimit .lineCount maxLines, severity := .block },
  { name := "no_eval", kind := .pattern "\\beval\\s*\\(", severity := .block,
    message := some "eval() is not allowed" },
  { name := "no_function_constructor", kind := .pattern "\\bnew\\s+Function\\s*\\(",
    severity := .block, message := some "new Function() is not allowed" },
  { name := "no_inner_html", kind := .pattern "\\.innerHTML\\s*=|dangerouslySetInnerHTML",
    severity := .block,
    message := some
      "Direct HTML injection (innerHTML, dangerouslySetInnerHTML) is not allowed" },
  { name := "no_document_write", kind := .pattern "\\bdocument\\.write(ln)?\\s*\\(",
    severity := .block, message := some "document.write() is not allowed" },
  { name := "no_network_access",
    kind := .pattern
      "\\bfetch\\s*\\(|\\bXMLHttpRequest\\b|\\bnew\\s+WebSocket\\b|\\bnavigator\\.sendBeacon\\b",
    severity := .block, message := some "Network access is not allowed" },
  { name := "no_browser_storage",
    kind := .pattern "\\b(localStorage|sessionStorage|indexedDB)\\b|\\bdocument\\.cookie\\b",
    severity := .block, message := some "Browser storage access is not allowed" },
  { name := "dependency_allowlist", kind := .dependencyAllowlist, severity := .block },
  { name := "no_console_log", kind := .pattern "\\bconsole\\.log\\s*\\(", severity := .warn,
    message := some "console.log left in component" },
  { name := "no_todo_comments", kind := .pattern "//\\s*(TODO|FIXME)\\b", severity := .log,
    message := some "Unfinished work marker in component" }]

end ArtifactPipeline
