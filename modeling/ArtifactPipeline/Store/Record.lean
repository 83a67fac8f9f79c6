import ArtifactPipeline.Plan.Basic
import ArtifactPipeline.Session.Timeline

/-!
# Records of the store

What is kept besides sessions, logs and rules: patterns to learn from, the audit trail of
validations and the queue of human reviews. The counters of a pattern are machine words: behind the
greatest word they start again at zero.
-/

namespace ArtifactPipeline

open Json Time

/-- A component generated before that may serve as a reference. -/
structure PatternRecord where
  id : String
  name : String
  intent : Intent
  /-- The source text, if it has been kept. -/
  code : Option String
  /-- How many finished sessions referred to the pattern. -/
  usageCount : UInt64
  /-- How many of them completed. -/
  successCount : UInt64
  /-- How many of them were rejected. -/
  failureCount : UInt64
  deriving Repr, DecidableEq

/-- The summary of one validation. -/
structure AuditEntry where
  tenant : String
  /-- The session, if the validation was part of one. -/
  session : Option SessionId
  passed : Nat
  failed : Nat
  isValid : Bool
  time : Instant
  deriving Repr, DecidableEq

/-- A session that is handed to a human. -/
structure ReviewRecord where
  session : SessionId
  tenant : String
  /-- The rules that failed. -/
  reason : String
  /-- The repairs made before. -/
  attempts : Nat
  code : Option String
  time : Instant
  deriving Repr, DecidableEq

namespace PatternRecord

/-- The share of the sessions with an outcome that completed. -/
def successRate (p : PatternRecord) : Float :=
  let finished := p.successCount + p.failureCount
  if finished == 0 then 0.0 else p.successCount.toNat.toFloat / finished.toNat.toFloat

/-- Counts one use with its outcome. -/
def count (p : PatternRecord) (success : Bool) : PatternRecord :=
  { p with
    usageCount := p.usageCount + 1
    successCount := p.successCount + (if success then 1 else 0)
    failureCount := p.failureCount + (if success then 0 else 1) }

/-- The JSON value of a pattern. -/
def toJson (p : PatternRecord) : Value :=
  .obj [
    ("id", .str p.id),
    ("name", .str p.name),
    ("intent", p.intent.toJson),
    ("code", .text? p.code),
    ("usage_count", .nat p.usageCount.toNat),
    ("success_count", .nat p.successCount.toNat),
    ("failure_count", .nat p.failureCount.toNat)]

/-- The names of the parts of a pattern. -/
def partNames : List String :=
  ["id", "name", "intent", "code", "usage_count", "success_count", "failure_count"]

/-- Reads a pattern. -/
def ofNode? (node : Node) : Option PatternRecord := do
  let r ← Record.ofNode? partNames node
  return {
    id := ← r.required "id" Node.text?
    name := ← r.required "name" Node.text?
    intent := ← r.required "intent" Intent.ofNode?
    code := ← r.optional "code" Node.text?
    usageCount := ← r.required "usage_count" Node.word?
    successCount := ← r.required "success_count" Node.word?
    failureCount := ← r.required "failure_count" Node.word? }

end PatternRecord

namespace AuditEntry

/-- The JSON value of an audit entry. -/
def toJson (e : AuditEntry) : Value :=
  .obj [
    ("tenant_id", .str e.tenant),
    ("session_id", .option SessionId.toJson e.session),
    ("passed", .nat e.passed),
    ("failed", .nat e.failed),
    ("is_valid", .bool e.isValid),
    ("created_at", e.time.toJson)]

/-- The names of the parts of an audit entry. -/
def partNames : List String :=
  ["tenant_id", "session_id", "passed", "failed", "is_valid", "created_at"]

/-- Reads an audit entry. -/
def ofNode? (node : Node) : Option AuditEntry := do
  let r ← Record.ofNode? partNames node
  return {
    tenant := ← r.required "tenant_id" Node.text?
    session := ← r.optional "session_id" SessionId.ofNode?
    passed := ← r.required "passed" Node.nat64?
    failed := ← r.required "failed" Node.nat64?
    isValid := ← r.required "is_valid" Node.bool?
    time := ← r.required "created_at" Instant.ofNode? }

end AuditEntry

namespace ReviewRecord

/-- The JSON value of a review. -/
def toJson (r : ReviewRecord) : Value :=
  .obj [
    ("session_id", r.session.toJson),
    ("tenant_id", .str r.tenant),
    ("reason", .str r.reason),
    ("recovery_attempts", .nat r.attempts),
    ("final_code", .text? r.code),
    ("created_at", r.time.toJson)]

/-- The names of the parts of a review. -/
def partNames : List String :=
  ["session_id", "tenant_id", "reason", "recovery_attempts", "final_code", "created_at"]

/-- Reads a review. -/
def ofNode? (node : Node) : Option ReviewRecord := do
  let r ← Record.ofNode? partNames node
  return {
    session := ← r.required "session_id" SessionId.ofNode?
    tenant := ← r.required "tenant_id" Node.text?
    reason := ← r.required "reason" Node.text?
    attempts := ← r.required "recovery_attempts" Node.nat32?
    code := ← r.optional "final_code" Node.text?
    time := ← r.required "created_at" Instant.ofNode? }

end ReviewRecord

end ArtifactPipeline
