import ArtifactPipeline.Config.File
import ArtifactPipeline.Model.Service

/-!
# Hosted models

The models behind a service on the network. A request to a model goes out as an HTTP request with a
JSON body, and the text and the tokens are read from the JSON body that comes back. The network is
known by what it makes of each HTTP request that is sent; a call that takes too long is given up.
-/

namespace ArtifactPipeline

open Json

/-- A request as it goes over the network. -/
structure HttpRequest where
  address : String
  headers : List (String × String)
  body : Value

/-- What comes back over the network. -/
structure HttpReply where
  status : Nat
  /-- The standard words for the status. -/
  phrase : String
  /-- The text of the body, or why it could not be received. -/
  body : Except String String

/-- What has become of a request. -/
structure Exchange where
  /-- The time that it took. -/
  milliseconds : Nat
  /-- What came back, or why nothing did. -/
  outcome : Except String HttpReply

/-- A network: what becomes of the requests that are sent, one after another. -/
structure Network where
  exchange : Nat → HttpRequest → Exchange

/-- A network without a connection to the outside. -/
def Network.unreachable : Network where
  exchange _ request :=
    ⟨1, .error ("error sending request for url (" ++ request.address ++ ")")⟩

/-- The service of hosted models, with the key for it. -/
structure HostedModel where
  key : String
  /-- A service cannot be used without a key. -/
  key_ne : key ≠ ""
  /-- The seconds after which a call is given up. -/
  deadline : Nat
  network : Network
  /-- How many requests were sent. -/
  sent : Nat := 0

/-- What is read from a reply of the service. -/
structure Completion where
  /-- The texts that the model offers. -/
  choices : List String
  usage : Option TokenUsage
  deriving Repr, DecidableEq

namespace Completion

/-- Reads the text of a choice. -/
def choiceOfNode? (node : Node) : Option String := do
  let choice ← Record.ofNode? ["message"] node
  let message ← choice.required "message" (Record.ofNode? ["content"])
  message.required "content" Node.text?

/-- Reads the tokens of a call. -/
def usageOfNode? (node : Node) : Option TokenUsage := do
  let r ← Record.ofNode? ["prompt_tokens", "completion_tokens"] node
  return {
    input := ← r.required "prompt_tokens" Node.word?
    output := ← r.required "completion_tokens" Node.word? }

/-- Reads a reply. All choices must be readable, although only the first one is used. -/
def ofNode? (node : Node) : Option Completion := do
  let r ← Record.ofNode? ["choices", "usage"] node
  return {
    choices := ← r.required "choices" (Node.list? choiceOfNode?)
    usage := ← r.optional "usage" usageOfNode? }

/-- Reads the body of a reply. -/
def ofText (text : String) : Except Failure Completion :=
  match (Node.parse text.toList).bind ofNode? with
  | some completion => .ok completion
  | none => .error (.invalidResponse "Failed to parse response: error decoding response body")

end Completion

namespace HttpReply

/-- Whether the service answered the request. -/
def isSuccess (r : HttpReply) : Bool := 200 ≤ r.status && r.status < 300

/-- The failure of a request that the service did not answer. -/
def refusal (r : HttpReply) : Failure :=
  .provider ("OpenRouter API request failed with status " ++ toString r.status ++ " " ++ r.phrase ++
    ": " ++ (r.body.toOption).getD "")

/-- What the reply says. -/
def completion (r : HttpReply) : Except Failure Completion := do
  if !r.isSuccess then throw r.refusal
  let text ← r.body.mapError fun reason => .invalidResponse ("Failed to parse response: " ++ reason)
  Completion.ofText text

end HttpReply

namespace HostedModel

/-- The address of the service. -/
def address : String := "https://openrouter.ai/api/v1/chat/completions"

/-- The service with a key, unless the key is empty. -/
def create (key : String) (deadline : Nat) (network : Network) : Except Failure HostedModel :=
  if h : key = "" then .error (.missingApiKey Config.keyVariable)
  else .ok { key, key_ne := h, deadline, network }

/-- The service with the key of the settings or else of the environment. -/
def ofConfig (c : Config) (environment : Option String) (network : Network) :
    Except Failure HostedModel :=
  match c.hostedKey environment with
  | none =>
    .error (.missingApiKey (Config.keyVariable ++ " or config.toml openrouter_api_key"))
  | some key => create key c.models.timeoutSeconds network

/-- The wire format of a message. -/
def messageBody (m : ChatMessage) : Value :=
  .obj [("content", .str m.content), ("role", .str m.role.label)]

/-- The body of a request. The members are in the order of their names. -/
def body (request : ModelRequest) : Value :=
  .obj [
    ("max_tokens", .nat request.maxTokens),
    ("messages", .list messageBody request.messages),
    ("model", .str request.modelId),
    ("temperature", .float request.temperature.toFloat)]

/-- The HTTP request for a request to a model. -/
def httpRequest (m : HostedModel) (request : ModelRequest) : HttpRequest where
  address
  headers := [
    ("Authorization", "Bearer " ++ m.key),
    ("Content-Type", "application/json"),
    ("X-Title", "Forge")]
  body := body request

/-- Whether a text can stand in a header: it has no control characters but tabs. -/
def isHeaderText (s : String) : Bool :=
  s.toList.all fun c => c == '\t' || (0x20 ≤ c.toNat && c.toNat != 0x7F)

/-- The response to a request that is made from what came back. -/
def response (request : ModelRequest) (e : Exchange) : Except Failure ModelResponse := do
  let reply ← e.outcome.mapError .request
  match ← reply.completion with
  | ⟨[], _⟩ => throw (.invalidResponse "No choices in OpenRouter response")
  | ⟨content :: _, usage⟩ =>
    return {
      content
      usage := usage.getD {}
      modelId := request.modelId
      latencyMs := e.milliseconds }

/-- Answers a request. With a key that cannot stand in a header nothing is sent. -/
def invoke (request : ModelRequest) (m : HostedModel) :
    Except Failure ModelResponse × HostedModel :=
  if isHeaderText m.key then
    let exchange := m.network.exchange m.sent (m.httpRequest request)
    (if exchange.milliseconds < m.deadline * 1000 then response request exchange
      else .error (.timeout m.deadline),
      { m with sent := m.sent + 1 })
  else (.error (.request "builder error"), m)

/-- Requests are answered over the network. -/
instance : ModelService HostedModel where
  invoke := invoke

end HostedModel

end ArtifactPipeline
