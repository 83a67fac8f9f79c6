import ArtifactPipeline.Policy.Evaluate
import ArtifactPipeline.World

/-!
# Validation

A component is checked against the rules that are in force for its tenant. Every validation leaves
an entry in the audit trail.
-/

namespace ArtifactPipeline

variable {σ π : Type}

/-- Checks a component with the patterns that the world has compiled. -/
def World.evaluate (w : World σ π) (code : String) (rules : List Rule) (allowlist : List String) :
    Verdict × World σ π :=
  let (verdict, regexes) := Policy.evaluate code rules allowlist w.regexes
  (verdict, { w with regexes })

/-- Adds a verdict to the audit trail. That this may fail is ignored. -/
def World.recordAudit (w : World σ π) (tenant : String) (session : Option SessionId)
    (verdict : Verdict) : World σ π :=
  let (time, w) := w.now
  (w.write (.appendAudit {
    tenant
    session
    passed := verdict.passed.length
    failed := verdict.failed.length
    isValid := verdict.isValid
    time })).2

/-- Validates a component for a tenant. -/
def validate (code : String) (session : Option SessionId) (tenant : String) :
    Work σ π Verdict := do
  let rules ← Work.store (.activeRules tenant)
  let allowlist ← Work.store (.allowlist tenant)
  let verdict ← modifyGet (·.evaluate code rules allowlist)
  modify (·.recordAudit tenant session verdict)
  return verdict

end ArtifactPipeline
