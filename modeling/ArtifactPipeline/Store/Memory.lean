import ArtifactPipeline.Store.Call

/-!
# The store in memory

A store that keeps its records in lists, in the order in which they arrived. A call either answers
and gives the store after it, or is refused and has no effect. While the store is offline it refuses
every call.
-/

namespace ArtifactPipeline

/-- Replaces the first item that satisfies a condition, if there is one. -/
def replaceFirst? {α : Type} (p : α → Bool) (change : α → α) : List α → Option (List α)
  | [] => none
  | a :: rest =>
    if p a then some (change a :: rest) else (replaceFirst? p change rest).map (a :: ·)

/-- Puts an item in the place of the first one that satisfies a condition, or else at the end. -/
def putFirst {α : Type} (p : α → Bool) (a : α) (items : List α) : List α :=
  (replaceFirst? p (fun _ => a) items).getD (items ++ [a])

/-- The content of a store. -/
structure MemoryStore where
  sessions : List Session := []
  logs : List LogEntry := []
  patterns : List PatternRecord := []
  rules : List Rule := []
  /-- The packages that every tenant may import. -/
  globalAllowlist : List String := []
  /-- The further packages of each tenant. -/
  tenantAllowlists : List (String × List String) := []
  audit : List AuditEntry := []
  reviews : List ReviewRecord := []
  offline : Bool := false

namespace MemoryStore

/-- A store with the standard rules and allowed packages. -/
def withPolicy (maxLines : Nat) : MemoryStore where
  rules := defaultRules maxLines
  globalAllowlist := defaultAllowlist

/-- The further packages of a tenant. -/
def tenantAllowlist (m : MemoryStore) (tenant : String) : List String :=
  (m.tenantAllowlists.lookup tenant).getD []

/-- The packages that a tenant may import, its own ones first and none twice. -/
def resolvedAllowlist (m : MemoryStore) (tenant : String) : List String :=
  (m.tenantAllowlist tenant ++ m.globalAllowlist).eraseDups

/-- Adds a package to a list that does not hold it yet. -/
def insertPackage (package : String) (packages : List String) : List String :=
  if packages.contains package then packages else packages ++ [package]

/-- Allows a package for one tenant or for all. -/
def allow (m : MemoryStore) (tenant : Option String) (package : String) : MemoryStore :=
  match tenant with
  | none => { m with globalAllowlist := insertPackage package m.globalAllowlist }
  | some tenant =>
    let entry := (tenant, insertPackage package (m.tenantAllowlist tenant))
    { m with tenantAllowlists := putFirst (·.1 == tenant) entry m.tenantAllowlists }

/-- Answers a call while the store is online. -/
def answer (m : MemoryStore) : (c : StoreCall) → Except StoreError (c.Answer × MemoryStore)
  | .createSession session =>
    if m.sessions.any (·.id == session.id) then .error (.duplicateSession session.id)
    else .ok ((), { m with sessions := m.sessions ++ [session] })
  | .updateSession session =>
    match replaceFirst? (·.id == session.id) (fun _ => session) m.sessions with
    | some sessions => .ok ((), { m with sessions })
    | none => .error (.unknownSession session.id)
  | .getSession id => .ok (m.sessions.find? (·.id == id), m)
  | .listSessions tenant => .ok (m.sessions.filter (·.tenant == tenant), m)
  | .appendLog entry => .ok ((), { m with logs := m.logs ++ [entry] })
  | .sessionLogs id => .ok (m.logs.filter (·.session == id), m)
  | .listPatterns intent => .ok (m.patterns.filter fun p => intent.all (p.intent == ·), m)
  | .getPattern id => .ok (m.patterns.find? (·.id == id), m)
  | .savePattern pattern =>
    .ok ((), { m with patterns := putFirst (·.id == pattern.id) pattern m.patterns })
  | .recordPatternUsage id success =>
    match replaceFirst? (·.id == id) (·.count success) m.patterns with
    | some patterns => .ok ((), { m with patterns })
    | none => .error (.unknownPattern id)
  | .activeRules tenant => .ok (m.rules.filter (·.appliesTo tenant), m)
  | .allowlist tenant => .ok (m.resolvedAllowlist tenant, m)
  | .upsertRule rule =>
    let same (r : Rule) := r.name == rule.name && r.tenant == rule.tenant
    .ok ((), { m with rules := putFirst same rule m.rules })
  | .addAllowedDependency tenant package => .ok ((), m.allow tenant package)
  | .appendAudit entry => .ok ((), { m with audit := m.audit ++ [entry] })
  | .createReview record => .ok ((), { m with reviews := m.reviews ++ [record] })

/-- Answers a call, or refuses it. -/
def call (m : MemoryStore) (c : StoreCall) : Except StoreError (c.Answer × MemoryStore) :=
  if m.offline then .error .offline else m.answer c

/-- Switches the store off or on. -/
def setOffline (m : MemoryStore) (offline : Bool) : MemoryStore := { m with offline }

end MemoryStore

end ArtifactPipeline
