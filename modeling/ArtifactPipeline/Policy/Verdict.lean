import ArtifactPipeline.Policy.Rule

/-!
# Verdicts

The outcome of checking a text against rules: what passed, what failed, and the failures that block
the component or are reported with it.
-/

namespace ArtifactPipeline

open Json

/-- A rule that failed. -/
structure Issue where
  rule : String
  severity : Severity
  message : String
  /-- The one-based line of the offending text. -/
  line : Option Nat
  /-- The one-based column of the offending text. -/
  column : Option Nat
  deriving Repr, DecidableEq

/-- The outcome of a validation. -/
structure Verdict where
  /-- Whether no blocking rule failed. -/
  isValid : Bool
  /-- The blocking rules that failed. -/
  errors : List Issue
  /-- The warning rules that failed. -/
  warnings : List Issue
  /-- The share of the rules that passed. -/
  score : Float
  passed : List String
  /-- The names of the rules that failed, whatever their severity. -/
  failed : List String
  deriving Repr

namespace Issue

/-- The text of an issue. -/
def toText (i : Issue) : String :=
  "[" ++ i.rule ++ "] " ++ i.message ++
    match i.line with
    | some line => " (line " ++ toString line ++ ")"
    | none => ""

/-- The JSON value of an issue. -/
def toJson (i : Issue) : Value :=
  .obj [
    ("rule", .str i.rule),
    ("severity", i.severity.toJson),
    ("message", .str i.message),
    ("line", .option .nat i.line),
    ("column", .option .nat i.column)]

/-- Reads an issue. -/
def ofNode? (node : Node) : Option Issue := do
  let r ← Record.ofNode? ["rule", "severity", "message", "line", "column"] node
  return {
    rule := ← r.required "rule" Node.text?
    severity := ← r.required "severity" Severity.ofNode?
    message := ← r.required "message" Node.text?
    line := ← r.optional "line" Node.nat64?
    column := ← r.optional "column" Node.nat64? }

end Issue

namespace Verdict

/-- The texts of the blocking failures. -/
def errorMessages (v : Verdict) : List String := v.errors.map Issue.toText

/-- The JSON value of a verdict. -/
def toJson (v : Verdict) : Value :=
  .obj [
    ("is_valid", .bool v.isValid),
    ("errors", .list Issue.toJson v.errors),
    ("warnings", .list Issue.toJson v.warnings),
    ("security_score", .float v.score),
    ("passed_rules", .list .str v.passed),
    ("failed_rules", .list .str v.failed)]

/-- The names of the parts of a verdict. -/
def partNames : List String :=
  ["is_valid", "errors", "warnings", "security_score", "passed_rules", "failed_rules"]

/-- Reads a verdict. -/
def ofNode? (node : Node) : Option Verdict := do
  let r ← Record.ofNode? partNames node
  return {
    isValid := ← r.required "is_valid" Node.bool?
    errors := ← r.required "errors" (Node.list? Issue.ofNode?)
    warnings := ← r.required "warnings" (Node.list? Issue.ofNode?)
    score := ← r.required "security_score" Node.float?
    passed := ← r.required "passed_rules" (Node.list? Node.text?)
    failed := ← r.required "failed_rules" (Node.list? Node.text?) }

end Verdict

end ArtifactPipeline
