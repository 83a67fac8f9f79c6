import ArtifactPipeline.Policy.Cache
import ArtifactPipeline.Policy.Imports
import ArtifactPipeline.Policy.Verdict

/-!
# Checking a component

Each rule is checked on its own, and the findings are gathered into a verdict. Only blocking rules
make a component invalid. A rule whose pattern does not compile passes.
-/

namespace ArtifactPipeline

open Text

/-- Why a rule failed. -/
structure Violation where
  message : String
  line : Option Nat := none
  column : Option Nat := none
  deriving Repr, DecidableEq

/-- A rule and why it failed, if it did. -/
abbrev Finding := Rule × Option Violation

namespace Policy

/-- Fails when the text is larger than the limit. -/
def checkLimit (code : List Char) (metric : Metric) (max : Nat) : Option Violation :=
  let actual := metric.measure code
  if actual > max then
    some { message := "Code has " ++ toString actual ++ " " ++ metric.unit ++ " (max " ++
      toString max ++ ")" }
  else none

/-- Fails when the text imports a package that is not allowed. -/
def checkImports (code : List Char) (allowlist : List String) : Option Violation :=
  let packages := Imports.disallowed code allowlist
  if packages.isEmpty then none
  else some { message := "Disallowed imports: " ++ join ", " packages }

/-- Fails on the first match and tells where it begins. -/
def checkPattern (code : List Char) (program : Regex.Program) : Option Violation :=
  (program.find? code).map fun m =>
    let found := String.ofList ((code.drop m.start).take (m.stop - m.start))
    let (line, column) := location (code.take m.start)
    { message := "Forbidden pattern `" ++ found ++ "` found"
      line := some line
      column := some column }

/-- Checks one rule. -/
def check (code : List Char) (allowlist : List String) (rule : Rule) (cache : RegexCache) :
    Option Violation × RegexCache :=
  match rule.kind with
  | .resourceLimit metric max => (checkLimit code metric max, cache)
  | .dependencyAllowlist => (checkImports code allowlist, cache)
  | .pattern pattern =>
    let (program, cache) := cache.get pattern
    (program.bind (checkPattern code), cache)

/-- Checks rules one after another. -/
def inspect (code : List Char) (allowlist : List String) :
    List Rule → RegexCache → List Finding × RegexCache
  | [], cache => ([], cache)
  | rule :: rules, cache =>
    let (violation, cache) := check code allowlist rule cache
    let (findings, cache) := inspect code allowlist rules cache
    ((rule, violation) :: findings, cache)

/-- What is reported for a failed rule. The message of a pattern rule stands alone, that of any
other rule goes before the details. -/
def failureMessage (rule : Rule) (details : String) : String :=
  match rule.kind, rule.message with
  | _, none => details
  | .pattern _, some message => message
  | _, some message => message ++ ": " ++ details

/-- The issue of a finding, if the rule failed. -/
def issue? (finding : Finding) : Option Issue :=
  finding.2.map fun violation =>
    { rule := finding.1.name
      severity := finding.1.severity
      message := failureMessage finding.1 violation.message
      line := violation.line
      column := violation.column }

end Policy

namespace Verdict

open Policy

/-- The issues of a severity among some findings. -/
def issuesOf (severity : Severity) (findings : List Finding) : List Issue :=
  (findings.filterMap issue?).filter (·.severity == severity)

/-- The verdict that gathers some findings. -/
def ofFindings (findings : List Finding) : Verdict :=
  let errors := issuesOf .block findings
  let passed := (findings.filter (·.2.isNone)).map (·.1.name)
  { isValid := errors.isEmpty
    errors
    warnings := issuesOf .warn findings
    score := if findings.isEmpty then 0.0 else passed.length.toFloat / findings.length.toFloat
    passed
    failed := (findings.filter (·.2.isSome)).map (·.1.name) }

end Verdict

namespace Policy

/-- Checks a component against rules. -/
def evaluate (code : String) (rules : List Rule) (allowlist : List String) (cache : RegexCache) :
    Verdict × RegexCache :=
  let (findings, cache) := inspect code.toList allowlist rules cache
  (.ofFindings findings, cache)

/-- The verdict on a component when nothing has been compiled before. -/
def verdict (limit : Nat) (code : String) (rules : List Rule) (allowlist : List String) : Verdict :=
  (evaluate code rules allowlist { limit }).1

end Policy

end ArtifactPipeline
