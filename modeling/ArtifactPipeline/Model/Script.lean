import ArtifactPipeline.Model.Service

/-!
# Scripted models

A model that answers from scripts. The first script whose pattern occurs in the text of a request
answers it with its next reply, and its last reply is used again and again. A request without a
script gets the default reply, or an echo.
-/

namespace ArtifactPipeline

open Text

/-- A scripted reply. -/
inductive Reply where
  | text (content : String)
  | failure (reason : String)
  deriving Repr, DecidableEq

/-- The replies to requests whose text contains a pattern: the next one and those after it. -/
structure Script where
  pattern : String
  next : Reply
  later : List Reply := []
  deriving Repr, DecidableEq

/-- A model with scripts, and the requests that it has received. -/
structure ScriptedModel where
  scripts : List Script := []
  default : Option String := none
  history : List ModelRequest := []

namespace Script

/-- Whether the script answers a text. -/
def answers (s : Script) (text : String) : Bool :=
  occursIn s.pattern.toList text.toList

/-- The script after its next reply has been given. The last reply stays. -/
def advance (s : Script) : Script :=
  match s.later with
  | [] => s
  | reply :: later => { s with next := reply, later }

end Script

/-- The next reply of the first script that answers a text, and the scripts after it. -/
def nextReply (text : String) : List Script → Option (Reply × List Script)
  | [] => none
  | s :: rest =>
    if s.answers text then some (s.next, s.advance :: rest)
    else (nextReply text rest).map fun (reply, rest) => (reply, s :: rest)

namespace ScriptedModel

/-- Adds replies to requests that contain a pattern. Without replies nothing is added. -/
def withReplies (m : ScriptedModel) (pattern : String) : List Reply → ScriptedModel
  | [] => m
  | next :: later => { m with scripts := m.scripts ++ [{ pattern, next, later }] }

/-- Adds one reply to all requests that contain a pattern. -/
def withResponse (m : ScriptedModel) (pattern content : String) : ScriptedModel :=
  m.withReplies pattern [.text content]

/-- Adds replies to successive requests that contain a pattern. -/
def withSequence (m : ScriptedModel) (pattern : String) (contents : List String) :
    ScriptedModel :=
  m.withReplies pattern (contents.map .text)

/-- Lets all requests that contain a pattern fail. -/
def withFailure (m : ScriptedModel) (pattern reason : String) : ScriptedModel :=
  m.withReplies pattern [.failure reason]

/-- A rough number of tokens: a quarter of the characters. -/
def estimateTokens (text : String) : UInt64 := UInt64.ofNat (text.length / 4)

/-- The reply to a request with some content. -/
def respond (request : ModelRequest) (content : String) : ModelResponse where
  content
  usage := ⟨estimateTokens request.fullText, estimateTokens content⟩
  modelId := request.modelId

/-- Answers a request and keeps it in the history. -/
def invoke (request : ModelRequest) (m : ScriptedModel) :
    Except Failure ModelResponse × ScriptedModel :=
  let text := request.fullText
  let m := { m with history := m.history ++ [request] }
  match nextReply text m.scripts with
  | some (.text content, scripts) => (.ok (respond request content), { m with scripts })
  | some (.failure reason, scripts) => (.error (.provider reason), { m with scripts })
  | none => (.ok (respond request (m.default.getD ("Mock response for: " ++ text))), m)

/-- Requests are answered from the scripts. -/
instance : ModelService ScriptedModel where
  invoke := invoke

/-- How many of the requests so far contain a text. -/
def callsMatching (m : ScriptedModel) (pattern : String) : Nat :=
  m.history.countP fun r => occursIn pattern.toList r.fullText.toList

/-- Forgets the requests so far. -/
def clearHistory (m : ScriptedModel) : ScriptedModel := { m with history := [] }

end ScriptedModel

end ArtifactPipeline
