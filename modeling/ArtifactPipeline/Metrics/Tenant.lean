import ArtifactPipeline.World

/-!
# Figures about a tenant

Counts, rates and sums over the stored sessions of a tenant, with the most frequent intents and the
newest sessions.
-/

namespace ArtifactPipeline

open Json Time

/-- How many sessions were planned with an intent. -/
structure IntentCount where
  intent : Intent
  count : Nat
  deriving Repr, DecidableEq

/-- The short form of a session. -/
structure SessionSummary where
  id : SessionId
  prompt : String
  status : Status
  /-- The planned intent, if planning has finished. -/
  intent : Option Intent
  attempts : Nat
  created : Instant
  deriving Repr, DecidableEq

/-- The figures about a tenant. -/
structure TenantMetrics where
  /-- How many sessions there are. -/
  total : Nat
  /-- The share of sessions that completed. -/
  successRate : Float
  /-- The mean duration in milliseconds of the sessions that have ended. -/
  averageDuration : Float
  /-- The share of sessions that were repaired at least once. -/
  repairRate : Float
  totalTokens : UInt64
  /-- The estimated price of all sessions in US dollars. -/
  totalCost : Float
  /-- The most frequent intents, most frequent first. -/
  topIntents : List IntentCount
  /-- The newest sessions, newest first. -/
  recent : List SessionSummary
  deriving Repr

/-- A stored session and its log. -/
structure SessionDetail where
  session : Session
  logs : List LogEntry

namespace SessionSummary

/-- The short form of a session. -/
def ofSession (s : Session) : SessionSummary where
  id := s.id
  prompt := s.prompt
  status := s.status
  intent := s.plan.map (·.intent)
  attempts := s.attempts
  created := s.timeline.created

end SessionSummary

namespace TenantMetrics

/-- How many intents are reported. -/
def topCount : Nat := 5

/-- How many sessions are reported. -/
def recentCount : Nat := 10

/-- A share, which is zero of nothing. -/
def ratio (part whole : Nat) : Float :=
  if whole == 0 then 0.0 else part.toFloat / whole.toFloat

/-- The mean of some integers, which is zero for none. They are added as signed machine words. -/
def mean (values : List Int) : Float :=
  let sum := (values.map Int64.ofInt).foldl (· + ·) 0
  if values.isEmpty then 0.0 else Float.ofInt sum.toInt / values.length.toFloat

/-- The sum of some numbers, added from left to right. -/
def sum (values : List Float) : Float := values.foldl (· + ·) 0.0

/-- Whether an intent is reported before another one: by count, then by name. -/
def countsAbove (a b : IntentCount) : Bool :=
  b.count < a.count || (b.count == a.count && a.intent.label ≤ b.intent.label)

/-- How many sessions were planned with each intent that occurs. -/
def intentCounts (sessions : List Session) : List IntentCount :=
  let planned := sessions.filterMap fun s => s.plan.map (·.intent)
  (Intent.all.map fun intent => ⟨intent, planned.count intent⟩).filter (·.count != 0)

/-- The most frequent intents. -/
def topIntentsOf (sessions : List Session) : List IntentCount :=
  ((intentCounts sessions).mergeSort countsAbove).take topCount

/-- The newest sessions. Sessions of one moment stay in order. -/
def recentOf (sessions : List Session) : List SessionSummary :=
  let newestFirst := sessions.mergeSort fun a b => b.timeline.created.le a.timeline.created
  (newestFirst.take recentCount).map .ofSession

/-- The figures about some sessions. -/
def ofSessions (sessions : List Session) : TenantMetrics where
  total := sessions.length
  successRate := ratio (sessions.countP (·.status == .completed)) sessions.length
  averageDuration := mean (sessions.filterMap (·.timeline.durationMs))
  repairRate := ratio (sessions.countP (0 < ·.attempts)) sessions.length
  totalTokens := (sessions.map (·.usage.total)).foldl (· + ·) 0
  totalCost := sum (sessions.map (·.cost))
  topIntents := topIntentsOf sessions
  recent := recentOf sessions

end TenantMetrics

variable {σ π : Type}

/-- The figures about the stored sessions of a tenant. -/
def tenantMetrics (tenant : String) : Work σ π TenantMetrics := do
  return TenantMetrics.ofSessions (← Work.store (.listSessions tenant))

/-- A stored session with its log, if there is one. -/
def sessionDetail (id : SessionId) : Work σ π (Option SessionDetail) := do
  match ← Work.store (.getSession id) with
  | none => return none
  | some session => return some ⟨session, ← Work.store (.sessionLogs id)⟩

/-! ## JSON values -/

namespace IntentCount

/-- The JSON value of a count. -/
def toJson (c : IntentCount) : Value :=
  .obj [("intent", c.intent.toJson), ("count", .nat c.count)]

/-- Reads a count. -/
def ofNode? (node : Node) : Option IntentCount := do
  let r ← Record.ofNode? ["intent", "count"] node
  return {
    intent := ← r.required "intent" Intent.ofNode?
    count := ← r.required "count" Node.nat64? }

end IntentCount

namespace SessionSummary

/-- The JSON value of a summary. -/
def toJson (s : SessionSummary) : Value :=
  .obj [
    ("id", s.id.toJson),
    ("prompt", .str s.prompt),
    ("status", s.status.toJson),
    ("intent", .option Intent.toJson s.intent),
    ("reflexion_attempts", .nat s.attempts),
    ("created_at", s.created.toJson)]

/-- The names of the parts of a summary. -/
def partNames : List String :=
  ["id", "prompt", "status", "intent", "reflexion_attempts", "created_at"]

/-- Reads a summary. -/
def ofNode? (node : Node) : Option SessionSummary := do
  let r ← Record.ofNode? partNames node
  return {
    id := ← r.required "id" SessionId.ofNode?
    prompt := ← r.required "prompt" Node.text?
    status := ← r.required "status" Status.ofNode?
    intent := ← r.optional "intent" Intent.ofNode?
    attempts := ← r.required "reflexion_attempts" Node.nat32?
    created := ← r.required "created_at" Instant.ofNode? }

end SessionSummary

namespace TenantMetrics

/-- The JSON value of the figures. -/
def toJson (m : TenantMetrics) : Value :=
  .obj [
    ("total_generated", .nat m.total),
    ("success_rate", .float m.successRate),
    ("average_generation_time_ms", .float m.averageDuration),
    ("reflexion_rate", .float m.repairRate),
    ("total_tokens", .nat m.totalTokens.toNat),
    ("total_cost", .float m.totalCost),
    ("top_intents", .list IntentCount.toJson m.topIntents),
    ("recent_sessions", .list SessionSummary.toJson m.recent)]

/-- The names of the parts of the figures. -/
def partNames : List String :=
  ["total_generated", "success_rate", "average_generation_time_ms", "reflexion_rate",
   "total_tokens", "total_cost", "top_intents", "recent_sessions"]

/-- Reads the figures. -/
def ofNode? (node : Node) : Option TenantMetrics := do
  let r ← Record.ofNode? partNames node
  return {
    total := ← r.required "total_generated" Node.nat64?
    successRate := ← r.required "success_rate" Node.float?
    averageDuration := ← r.required "average_generation_time_ms" Node.float?
    repairRate := ← r.required "reflexion_rate" Node.float?
    totalTokens := ← r.required "total_tokens" Node.word?
    totalCost := ← r.required "total_cost" Node.float?
    topIntents := ← r.required "top_intents" (Node.list? IntentCount.ofNode?)
    recent := ← r.required "recent_sessions" (Node.list? SessionSummary.ofNode?) }

end TenantMetrics

namespace SessionDetail

/-- The JSON value of a session with its log. -/
def toJson (d : SessionDetail) : Value :=
  .obj [("session", d.session.toJson), ("logs", .list LogEntry.toJson d.logs)]

/-- Reads a session with its log. The details of an entry may be nested less than `depth` deep. -/
def ofNode? (depth : Nat) (node : Node) : Option SessionDetail := do
  let r ← Record.ofNode? ["session", "logs"] node
  return {
    session := ← r.required "session" Session.ofNode?
    logs := ← r.required "logs" (Node.list? (LogEntry.ofNode? depth)) }

end SessionDetail

end ArtifactPipeline
