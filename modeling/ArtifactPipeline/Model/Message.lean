import ArtifactPipeline.Text.Search
import ArtifactPipeline.Json.Record
import ArtifactPipeline.Json.Value

/-!
# Requests to a model and its replies

A request is a conversation with the sampling settings for its continuation. A reply carries the
text and the number of tokens that were read and written. Tokens are counted in machine words, and
sums of them are taken modulo the size of a word.
-/

namespace ArtifactPipeline

open Json

/-- The speaker of a message. -/
inductive Role where
  | system
  | user
  | assistant
  deriving Repr, DecidableEq, Inhabited

/-- One message of a conversation. -/
structure ChatMessage where
  role : Role
  content : String
  deriving Repr, DecidableEq

/-- One call of a model. -/
structure ModelRequest where
  modelId : String
  messages : List ChatMessage := []
  temperature : Float32 := 0.7
  /-- The most tokens to generate. -/
  maxTokens : Nat := 4096
  deriving Repr

/-- The tokens of one or more calls. -/
structure TokenUsage where
  input : UInt64 := 0
  output : UInt64 := 0
  deriving Repr, DecidableEq, Inhabited

/-- What a model answered. -/
structure ModelResponse where
  content : String
  usage : TokenUsage
  /-- The model that served the call. -/
  modelId : String
  latencyMs : Nat := 0
  deriving Repr

namespace Role

/-- Every role. -/
def all : List Role := [system, user, assistant]

/-- The name of a role. -/
def label : Role → String
  | system => "system"
  | user => "user"
  | assistant => "assistant"

/-- The JSON value of a role. -/
def toJson (r : Role) : Value := .str r.label

/-- Reads the name of a role. -/
def ofNode? : Node → Option Role := Node.oneOf? all label

end Role

namespace ChatMessage

/-- The JSON value of a message. -/
def toJson (m : ChatMessage) : Value :=
  .obj [("role", m.role.toJson), ("content", .str m.content)]

/-- Reads a message. -/
def ofNode? (node : Node) : Option ChatMessage := do
  let r ← Record.ofNode? ["role", "content"] node
  return {
    role := ← r.required "role" Role.ofNode?
    content := ← r.required "content" Node.text? }

end ChatMessage

namespace ModelRequest

/-- All messages, one after another on lines of their own. -/
def fullText (r : ModelRequest) : String :=
  Text.join "\n" (r.messages.map (·.content))

/-- The JSON value of a request. -/
def toJson (r : ModelRequest) : Value :=
  .obj [
    ("model_id", .str r.modelId),
    ("messages", .list ChatMessage.toJson r.messages),
    ("temperature", .float r.temperature.toFloat),
    ("max_tokens", .nat r.maxTokens)]

/-- Reads a request. -/
def ofNode? (node : Node) : Option ModelRequest := do
  let r ← Record.ofNode? ["model_id", "messages", "temperature", "max_tokens"] node
  return {
    modelId := ← r.required "model_id" Node.text?
    messages := ← r.required "messages" (Node.list? ChatMessage.ofNode?)
    temperature := ← r.required "temperature" Node.float32?
    maxTokens := ← r.required "max_tokens" Node.nat32? }

end ModelRequest

namespace TokenUsage

/-- All tokens. -/
def total (u : TokenUsage) : UInt64 := u.input + u.output

/-- The tokens of two records together. -/
def add (u v : TokenUsage) : TokenUsage := ⟨u.input + v.input, u.output + v.output⟩

/-- The JSON value of a record of tokens. -/
def toJson (u : TokenUsage) : Value :=
  .obj [("input", .nat u.input.toNat), ("output", .nat u.output.toNat)]

/-- Reads a record of tokens. -/
def ofNode? (node : Node) : Option TokenUsage := do
  let r ← Record.ofNode? ["input", "output"] node
  return { input := ← r.required "input" Node.word?, output := ← r.required "output" Node.word? }

end TokenUsage

namespace ModelResponse

/-- The JSON value of a reply. -/
def toJson (r : ModelResponse) : Value :=
  .obj [
    ("content", .str r.content),
    ("usage", r.usage.toJson),
    ("model_id", .str r.modelId),
    ("latency_ms", .nat r.latencyMs)]

/-- Reads a reply. -/
def ofNode? (node : Node) : Option ModelResponse := do
  let r ← Record.ofNode? ["content", "usage", "model_id", "latency_ms"] node
  return {
    content := ← r.required "content" Node.text?
    usage := ← r.required "usage" TokenUsage.ofNode?
    modelId := ← r.required "model_id" Node.text?
    latencyMs := ← r.required "latency_ms" Node.nat64? }

end ModelResponse

end ArtifactPipeline
