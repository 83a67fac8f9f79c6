import ArtifactPipeline.Session.Log
import ArtifactPipeline.Store.Record

/-!
# Calls of the store

The calls that a store answers, as data, with the type of the answer to each of them. The causes for
which a store refuses a call stand beside them.
-/

namespace ArtifactPipeline

/-- The methods of a store. -/
inductive StoreMethod where
  | createSession
  | updateSession
  | getSession
  | listSessions
  | appendLog
  | sessionLogs
  | listPatterns
  | getPattern
  | savePattern
  | recordPatternUsage
  | activeRules
  | allowlist
  | upsertRule
  | addAllowedDependency
  | appendAudit
  | createReview
  deriving Repr, DecidableEq, Inhabited

namespace StoreMethod

/-- Every method. -/
def all : List StoreMethod :=
  [createSession, updateSession, getSession, listSessions, appendLog, sessionLogs, listPatterns,
   getPattern, savePattern, recordPatternUsage, activeRules, allowlist, upsertRule,
   addAllowedDependency, appendAudit, createReview]

/-- The name of a method. -/
def label : StoreMethod → String
  | createSession => "create_session"
  | updateSession => "update_session"
  | getSession => "get_session"
  | listSessions => "list_sessions"
  | appendLog => "append_log"
  | sessionLogs => "session_logs"
  | listPatterns => "list_patterns"
  | getPattern => "get_pattern"
  | savePattern => "save_pattern"
  | recordPatternUsage => "record_pattern_usage"
  | activeRules => "active_rules"
  | allowlist => "allowlist"
  | upsertRule => "upsert_rule"
  | addAllowedDependency => "add_allowed_dependency"
  | appendAudit => "append_audit"
  | createReview => "create_review"

end StoreMethod

/-- A call of a store. -/
inductive StoreCall where
  /-- Stores a new session. -/
  | createSession (session : Session)
  /-- Replaces a stored session. -/
  | updateSession (session : Session)
  | getSession (id : SessionId)
  /-- The sessions of a tenant, oldest first. -/
  | listSessions (tenant : String)
  | appendLog (entry : LogEntry)
  /-- The entries of a session in the order in which they were appended. -/
  | sessionLogs (id : SessionId)
  /-- The patterns of an intent, or all of them. -/
  | listPatterns (intent : Option Intent)
  | getPattern (id : String)
  /-- Stores a pattern in place of the one with the same identifier. -/
  | savePattern (pattern : PatternRecord)
  /-- Counts one use of a pattern and its outcome. -/
  | recordPatternUsage (id : String) (success : Bool)
  /-- The rules in force for a tenant. -/
  | activeRules (tenant : String)
  /-- The packages that a tenant may import. -/
  | allowlist (tenant : String)
  /-- Stores a rule in place of the one with the same name and scope. -/
  | upsertRule (rule : Rule)
  /-- Allows a package for one tenant or for all. -/
  | addAllowedDependency (tenant : Option String) (package : String)
  | appendAudit (entry : AuditEntry)
  | createReview (record : ReviewRecord)
  deriving Repr

namespace StoreCall

/-- The method that is called. -/
def method : StoreCall → StoreMethod
  | createSession _ => .createSession
  | updateSession _ => .updateSession
  | getSession _ => .getSession
  | listSessions _ => .listSessions
  | appendLog _ => .appendLog
  | sessionLogs _ => .sessionLogs
  | listPatterns _ => .listPatterns
  | getPattern _ => .getPattern
  | savePattern _ => .savePattern
  | recordPatternUsage _ _ => .recordPatternUsage
  | activeRules _ => .activeRules
  | allowlist _ => .allowlist
  | upsertRule _ => .upsertRule
  | addAllowedDependency _ _ => .addAllowedDependency
  | appendAudit _ => .appendAudit
  | createReview _ => .createReview

/-- The type of the answer to a call. -/
@[reducible] def Answer : StoreCall → Type
  | getSession _ => Option Session
  | listSessions _ => List Session
  | sessionLogs _ => List LogEntry
  | listPatterns _ => List PatternRecord
  | getPattern _ => Option PatternRecord
  | activeRules _ => List Rule
  | allowlist _ => List String
  | _ => Unit

end StoreCall

/-- Why a store refuses a call. -/
inductive StoreError where
  /-- The whole store is switched off. -/
  | offline
  /-- The method is out of order. -/
  | unavailable (method : StoreMethod)
  | duplicateSession (id : SessionId)
  | unknownSession (id : SessionId)
  | unknownPattern (id : String)
  deriving Repr, DecidableEq

namespace StoreError

/-- The wording of a cause. -/
def message : StoreError → String
  | offline => "memory store is offline"
  | unavailable method => method.label ++ " unavailable"
  | duplicateSession id => "session " ++ id.toText ++ " already exists"
  | unknownSession id => "session " ++ id.toText ++ " not found"
  | unknownPattern id => "pattern " ++ id ++ " not found"

/-- The failure of an operation that needed the store. -/
def toFailure (e : StoreError) : Failure := .store e.message

end StoreError

end ArtifactPipeline
