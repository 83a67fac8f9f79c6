import ArtifactPipeline.Store.Memory

/-!
# A database that is its history

A database that remembers the calls that it took, in order, and nothing else. What is found under a
key is the last version that was written under it. A collection has its keys in the order in which
they were first written. Records that are only appended are listed as they came. A call that cannot
be answered is not remembered.
-/

namespace ArtifactPipeline

/-- What tells a rule from others. -/
structure RuleKey where
  name : String
  /-- The tenant that the rule is limited to. -/
  scope : Option String
  deriving DecidableEq

/-- The key of a rule: its name and its scope. -/
def Rule.key (r : Rule) : RuleKey := ⟨r.name, r.tenant⟩

namespace StoreCall

/-- The name of the session that a call creates. -/
def created? : StoreCall → Option SessionId
  | createSession s => some s.id
  | _ => none

/-- The version of a session that a call writes. -/
def session? : StoreCall → Option Session
  | createSession s | updateSession s => some s
  | _ => none

/-- The version of a pattern that a call writes. -/
def pattern? : StoreCall → Option PatternRecord
  | savePattern p => some p
  | _ => none

/-- What a call makes of the pattern that is found under a name. -/
def onPattern (id : String) (held : Option PatternRecord) : StoreCall → Option PatternRecord
  | savePattern p => if p.id = id then some p else held
  | recordPatternUsage used success => if used = id then held.map (·.count success) else held
  | _ => held

/-- The version of a rule that a call writes. -/
def rule? : StoreCall → Option Rule
  | upsertRule r => some r
  | _ => none

/-- The package that a call allows for a tenant, or for all. -/
def package? (scope : Option String) : StoreCall → Option String
  | addAllowedDependency tenant package => if tenant = scope then some package else none
  | _ => none

/-- The log entry that a call appends. -/
def log? : StoreCall → Option LogEntry
  | appendLog entry => some entry
  | _ => none

/-- The entry that a call appends to the audit trail. -/
def audit? : StoreCall → Option AuditEntry
  | appendAudit entry => some entry
  | _ => none

/-- The review that a call asks for. -/
def review? : StoreCall → Option ReviewRecord
  | createReview record => some record
  | _ => none

end StoreCall

/-- The calls that a database took, oldest first. -/
abbrev History := List StoreCall

namespace History

variable (h : History)

/-- The last item with a key. -/
def last {α β : Type} [BEq β] (key : α → β) (k : β) (versions : List α) : Option α :=
  (versions.filter (key · == k)).getLast?

/-- The names of the sessions in the order of their creation. -/
def sessionIds : List SessionId := h.filterMap StoreCall.created?

/-- The last version of a session. -/
def session? (id : SessionId) : Option Session := last (·.id) id (h.filterMap StoreCall.session?)

/-- The sessions in the order of their creation. -/
def sessions : List Session := h.sessionIds.filterMap h.session?

/-- The names of the patterns in the order in which they were first saved. -/
def patternIds : List String := ((h.filterMap StoreCall.pattern?).map (·.id)).eraseDups

/-- The last version of a pattern that was saved, with the uses that were counted since then. -/
def pattern? (id : String) : Option PatternRecord := h.foldl (StoreCall.onPattern id) none

/-- The patterns in the order in which they were first saved. -/
def patterns : List PatternRecord := h.patternIds.filterMap h.pattern?

/-- The names and scopes of the rules in the order in which they were first written. -/
def ruleKeys : List RuleKey := ((h.filterMap StoreCall.rule?).map Rule.key).eraseDups

/-- The last version of a rule. -/
def rule? (key : RuleKey) : Option Rule := last Rule.key key (h.filterMap StoreCall.rule?)

/-- The rules in the order in which they were first written. -/
def rules : List Rule := h.ruleKeys.filterMap h.rule?

/-- The packages that were allowed for a tenant, or for all, each where it was first allowed. -/
def packages (scope : Option String) : List String :=
  (h.filterMap (StoreCall.package? scope)).eraseDups

/-- The packages of a tenant, and behind them those for all that are not among them. -/
def allowlist (tenant : String) : List String :=
  h.packages (some tenant) ++
    (h.packages none).filter fun package => !(h.packages (some tenant)).contains package

/-- The log entries in the order in which they were appended. -/
def logs : List LogEntry := h.filterMap StoreCall.log?

/-- The audit trail in the order in which it was appended. -/
def audit : List AuditEntry := h.filterMap StoreCall.audit?

/-- The reviews in the order in which they were asked for. -/
def reviews : List ReviewRecord := h.filterMap StoreCall.review?

/-- What a database with this history answers. -/
def answer : (c : StoreCall) → Except StoreError c.Answer
  | .createSession s => if s.id ∈ h.sessionIds then .error (.duplicateSession s.id) else .ok ()
  | .updateSession s => if s.id ∈ h.sessionIds then .ok () else .error (.unknownSession s.id)
  | .getSession id => .ok (h.session? id)
  | .listSessions tenant => .ok (h.sessions.filter (·.tenant == tenant))
  | .appendLog _ => .ok ()
  | .sessionLogs id => .ok (h.logs.filter (·.session == id))
  | .listPatterns none => .ok h.patterns
  | .listPatterns (some intent) => .ok (h.patterns.filter (·.intent == intent))
  | .getPattern id => .ok (h.pattern? id)
  | .savePattern _ => .ok ()
  | .recordPatternUsage id _ =>
    if id ∈ h.patternIds then .ok () else .error (.unknownPattern id)
  | .activeRules tenant =>
    .ok (h.rules.filter fun r => r.enabled && (r.tenant == none || r.tenant == some tenant))
  | .allowlist tenant => .ok (h.allowlist tenant)
  | .upsertRule _ => .ok ()
  | .addAllowedDependency _ _ => .ok ()
  | .appendAudit _ => .ok ()
  | .createReview _ => .ok ()

end History

/-- What happens to a store: it is called, or it is switched off or on. -/
inductive StoreEvent where
  | call (c : StoreCall)
  | setOffline (offline : Bool)

/-- A database that is its history and may be switched off. -/
structure Database where
  history : History := []
  offline : Bool := false

namespace Database

/-- Answers a call and remembers it, or refuses it. -/
def call (d : Database) (c : StoreCall) : Except StoreError (c.Answer × Database) :=
  if d.offline then .error .offline
  else (d.history.answer c).map fun answer => (answer, { d with history := d.history ++ [c] })

/-- The database after something happened to it. -/
def step (d : Database) : StoreEvent → Database
  | .call c =>
    match d.call c with
    | .ok (_, next) => next
    | .error _ => d
  | .setOffline offline => { d with offline }

/-- The database after some events. -/
def run (d : Database) (events : List StoreEvent) : Database := events.foldl step d

end Database

end ArtifactPipeline
