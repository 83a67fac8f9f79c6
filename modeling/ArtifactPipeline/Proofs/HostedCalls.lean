import ArtifactPipeline.Model.Hosted
import ArtifactPipeline.Proofs.RecordParts

/-!
# Calls of hosted models

A call of a hosted model sends one request over the network, unless the key cannot stand in a
header. The messages of the conversation can be read back from the body of that request, in their
order. The call is answered with the first choice of the reply if the service answered in time with
a body that describes a completion; else it fails, and the failure tells whether it makes sense to
try again.
-/

namespace ArtifactPipeline

open Json

/-! ## What is sent -/

/-- A role is read from its name. -/
theorem Role.ofNode?_label (r : Role) : Role.ofNode? (.str (some r.label)) = some r := by
  cases r <;> decide

namespace HostedModel

/-- What the wire format of a message says. -/
def messageParts (m : ChatMessage) : List (String × Node) :=
  [("content", .str (some m.content)), ("role", .str (some m.role.label))]

/-- The wire format of a message says its text and its role. -/
theorem spells_messageBody (m : ChatMessage) :
    Spells (messageBody m).write
      (.value (.obj ((messageParts m).map fun part => (some part.1, part.2)))) :=
  spells_obj (.cons ⟨rfl, spells_str _⟩ (.cons ⟨rfl, spells_str _⟩ .nil))

/-- A message is read from what its wire format says. -/
theorem ofNode?_messageParts (m : ChatMessage) :
    ChatMessage.ofNode? (.obj ((messageParts m).map fun part => (some part.1, part.2))) =
      some m := by
  have hnames : ((messageParts m).map (·.1)).Nodup := by simp [messageParts]
  have hknown : (messageParts m).filter (fun part => ["role", "content"].contains part.1) =
      messageParts m := List.filter_eq_self.mpr (by simp [messageParts])
  obtain ⟨r, hparts, hget⟩ := Record.ofNode?_obj hnames (.of_eq hknown)
  have hrole : r.get? "role" = some (.str (some m.role.label)) := hget "role"
  have hcontent : r.get? "content" = some (.str (some m.content)) := hget "content"
  rw [ChatMessage.ofNode?, hparts]
  simp [Record.required, hrole, hcontent, Role.ofNode?_label, Node.text?]

/-- The messages of a request can be read back from what is sent, in their order. -/
theorem messages_read_back (messages : List ChatMessage) :
    (Node.parse (Value.list messageBody messages).write).bind (Node.list? ChatMessage.ofNode?) =
      some messages := by
  have hspelled : Spells (Value.list messageBody messages).write (.value (.arr
      (messages.map fun m => .obj ((messageParts m).map fun part => (some part.1, part.2))))) := by
    apply spells_arr
    rw [List.forall₂_map_left_iff, List.forall₂_map_right_iff]
    exact List.forall₂_same.mpr fun m _ => spells_messageBody m
  rw [parse_spelled hspelled]
  exact mapM_map_eq_some ofNode?_messageParts messages

end HostedModel

/-! ## What comes back -/

namespace Completion

/-- An object says the text of a choice in the content of its message. It may have other members, and
so may the message. -/
def SaysChoice (content : String) (node : Node) : Prop :=
  ∃ members inner : List (String × Node), node = .obj (members.map fun m => (some m.1, m.2)) ∧
    (members.filter fun m => ["message"].contains m.1) =
      [("message", .obj (inner.map fun m => (some m.1, m.2)))] ∧
    (inner.filter fun m => ["content"].contains m.1) = [("content", .str (some content))]

/-- An object says the tokens of a call, in any order and among other members. -/
def SaysUsage (usage : TokenUsage) (node : Node) : Prop :=
  ∃ members : List (String × Node), node = .obj (members.map fun m => (some m.1, m.2)) ∧
    (members.filter fun m => ["prompt_tokens", "completion_tokens"].contains m.1).Perm
      [("prompt_tokens", .num (.ofNat usage.input.toNat)),
        ("completion_tokens", .num (.ofNat usage.output.toNat))]

/-- An object says a completion: its choices in order, and its tokens unless they are left out. -/
def Says (c : Completion) (node : Node) : Prop :=
  ∃ (members : List (String × Node)) (choices : List Node),
    node = .obj (members.map fun m => (some m.1, m.2)) ∧
      List.Forall₂ SaysChoice c.choices choices ∧
      ((c.usage = none ∧ (members.filter fun m => ["choices", "usage"].contains m.1) =
          [("choices", .arr choices)]) ∨
        ∃ usage said, c.usage = some usage ∧ SaysUsage usage said ∧
          (members.filter fun m => ["choices", "usage"].contains m.1).Perm
            [("choices", .arr choices), ("usage", said)])

/-- The text of a choice is read from what is said. -/
theorem SaysChoice.read {content : String} {node : Node} (h : SaysChoice content node) :
    choiceOfNode? node = some content := by
  obtain ⟨members, inner, rfl, hmessage, hcontent⟩ := h
  obtain ⟨choice, hchoice, hgetMessage⟩ := Record.ofNode?_obj (by simp) (.of_eq hmessage)
  obtain ⟨message, hmessage, hgetContent⟩ := Record.ofNode?_obj (by simp) (.of_eq hcontent)
  rw [choiceOfNode?, hchoice]
  simp [Record.required, hgetMessage, hgetContent, hmessage, Node.text?]

/-- A machine word is read from its number. -/
theorem word?_ofNat (w : UInt64) : Node.word? (.num (.ofNat w.toNat)) = some w := by
  have hfits : w.toNat ≤ Numeral.maxUnsigned := Nat.le_sub_one_of_lt w.toNat_lt_size
  rw [Node.word?, Node.nat64?, natBelow?_ofNat w.toNat_lt_size hfits, Option.map_some,
    UInt64.ofNat_toNat]

/-- The tokens of a call are read from what is said. -/
theorem SaysUsage.read {usage : TokenUsage} {node : Node} (h : SaysUsage usage node) :
    usageOfNode? node = some usage := by
  obtain ⟨members, rfl, hparts⟩ := h
  obtain ⟨r, hr, hget⟩ := Record.ofNode?_obj (by simp) hparts
  have hinput : r.get? "prompt_tokens" = some (.num (.ofNat usage.input.toNat)) :=
    hget "prompt_tokens"
  have houtput : r.get? "completion_tokens" = some (.num (.ofNat usage.output.toNat)) :=
    hget "completion_tokens"
  rw [usageOfNode?, hr]
  simp [Record.required, hinput, houtput, word?_ofNat]

/-- The choices of a completion are read in order from what is said. -/
theorem list?_choices {contents : List String} {nodes : List Node}
    (h : List.Forall₂ SaysChoice contents nodes) :
    Node.list? choiceOfNode? (.arr nodes) = some contents := by
  rw [Node.list?]
  induction h with
  | nil => rfl
  | cons hfirst _ ih => simp [List.mapM_cons, hfirst.read, ih]

/-- A completion is read from what is said. -/
theorem Says.read {c : Completion} {node : Node} (h : c.Says node) : ofNode? node = some c := by
  obtain ⟨contents, tokens⟩ := c
  obtain ⟨members, choices, rfl, hchoices, hparts⟩ := h
  dsimp only at hchoices hparts
  rcases hparts with ⟨rfl, hparts⟩ | ⟨usage, said, rfl, hsaid, hparts⟩
  · obtain ⟨r, hr, hget⟩ := Record.ofNode?_obj (by simp) (.of_eq hparts)
    have hlist : r.get? "choices" = some (.arr choices) := hget "choices"
    have htokens : r.get? "usage" = none := hget "usage"
    have hnamed := Record.positional_of_obj hr
    rw [ofNode?, hr]
    simp [Record.required, Record.optional, Record.possible, hlist, htokens, hnamed,
      list?_choices hchoices]
  · obtain ⟨r, hr, hget⟩ := Record.ofNode?_obj (by simp) hparts
    have hlist : r.get? "choices" = some (.arr choices) := hget "choices"
    have htokens : r.get? "usage" = some said := hget "usage"
    have hread : Record.nullable usageOfNode? said = some (some usage) := by
      obtain ⟨members, rfl, -⟩ := id hsaid
      rw [Record.nullable, hsaid.read]
      · rfl
      · simp
    rw [ofNode?, hr]
    simp [Record.required, Record.optional, Record.possible, hlist, htokens, hread,
      list?_choices hchoices]

end Completion

/-! ## How a call ends -/

namespace HostedModel

variable {m : HostedModel} {request : ModelRequest} {e : Exchange} {reply : HttpReply}

/-- A reply that cannot be read makes the response fail for the same reason. -/
theorem response_unread (hreceived : e.outcome = .ok reply) {failure : Failure}
    (hread : reply.completion = .error failure) : response request e = .error failure := by
  rw [response, hreceived]
  simp only [Except.mapError, bind, Except.bind, hread]

/-- A reply without a choice is of no use. -/
theorem response_empty (hreceived : e.outcome = .ok reply) {usage : Option TokenUsage}
    (hread : reply.completion = .ok ⟨[], usage⟩) :
    response request e = .error (.invalidResponse "No choices in OpenRouter response") := by
  rw [response, hreceived]
  simp only [Except.mapError, bind, Except.bind, hread]
  rfl

/-- Of the choices in a reply the first one is the response. -/
theorem response_first (hreceived : e.outcome = .ok reply) {content : String}
    {contents : List String} {usage : Option TokenUsage}
    (hread : reply.completion = .ok ⟨content :: contents, usage⟩) :
    response request e = .ok {
      content
      usage := usage.getD {}
      modelId := request.modelId
      latencyMs := e.milliseconds } := by
  rw [response, hreceived]
  simp only [Except.mapError, bind, Except.bind, hread]
  rfl

/-- What the network makes of the request that a call sends. -/
def exchangeFor (m : HostedModel) (request : ModelRequest) : Exchange :=
  m.network.exchange m.sent (m.httpRequest request)

/-- The service answered a call: the request could be sent, something came back in time, and its
status says that it is an answer. -/
structure Answers (m : HostedModel) (request : ModelRequest) (reply : HttpReply) : Prop where
  sendable : isHeaderText m.key = true
  inTime : (m.exchangeFor request).milliseconds < m.deadline * 1000
  received : (m.exchangeFor request).outcome = .ok reply
  success : reply.isSuccess = true

/-- A call sends one request, or none if the key cannot stand in a header. Nothing else about the
service changes. -/
theorem invoke_sent (m : HostedModel) (request : ModelRequest) :
    (m.invoke request).2 = { m with sent := m.sent + if isHeaderText m.key then 1 else 0 } := by
  unfold invoke
  split <;> simp [*]

/-- The answer to an answered call is made from the reply. -/
theorem Answers.invoke_eq (h : m.Answers request reply) :
    (m.invoke request).1 = response request (m.exchangeFor request) := by
  rw [invoke, if_pos h.sendable]
  exact if_pos h.inTime

/-- An answered call whose body says a completion is answered with the first choice, the tokens that
are said or none, and the model that was asked for. -/
theorem Answers.invoke_ok (h : m.Answers request reply) {text : String}
    (hbody : reply.body = .ok text) {content : String} {contents : List String}
    {usage : Option TokenUsage} {node : Node}
    (hcompletes : Completion.Says ⟨content :: contents, usage⟩ node)
    (htext : Spells text.toList (.value node)) :
    (m.invoke request).1 = .ok {
      content
      usage := usage.getD {}
      modelId := request.modelId
      latencyMs := (m.exchangeFor request).milliseconds } := by
  have hcompletion : Completion.ofText text = .ok ⟨content :: contents, usage⟩ := by
    rw [Completion.ofText, parse_spelled htext, Option.bind_some, hcompletes.read]
  have hreply : reply.completion = .ok ⟨content :: contents, usage⟩ := by
    simp [HttpReply.completion, h.success, hbody, hcompletion, Except.mapError, bind, Except.bind]
  rw [h.invoke_eq, response_first h.received hreply]

/-- The reply to an answered call is read, or there is a reason why it cannot be used. -/
theorem completion_cases (h : reply.isSuccess = true) :
    (∃ c, reply.completion = .ok c) ∨
      ∃ reason, reply.completion = .error (.invalidResponse reason) := by
  unfold HttpReply.completion
  rw [h]
  cases reply.body with
  | error reason => exact .inr ⟨_, rfl⟩
  | ok text =>
    change (∃ c, Completion.ofText text = .ok c) ∨
      ∃ reason, Completion.ofText text = .error (.invalidResponse reason)
    unfold Completion.ofText
    split
    · exact .inl ⟨_, rfl⟩
    · exact .inr ⟨_, rfl⟩

/-- An answered call that fails does so because its reply cannot be used. -/
theorem Answers.invoke_error (h : m.Answers request reply) {failure : Failure}
    (hresult : (m.invoke request).1 = .error failure) :
    ∃ reason, failure = .invalidResponse reason := by
  rw [h.invoke_eq] at hresult
  rcases completion_cases h.success with ⟨⟨choices, usage⟩, hread⟩ | ⟨reason, hread⟩
  · cases choices with
    | nil =>
      rw [response_empty h.received hread] at hresult
      exact ⟨_, (Except.error.inj hresult).symm⟩
    | cons content contents =>
      rw [response_first h.received hread] at hresult
      cases hresult
  · rw [response_unread h.received hread] at hresult
    exact ⟨reason, (Except.error.inj hresult).symm⟩

/-- A reply whose status says that it is no answer cannot be read as one. -/
theorem completion_refused (h : reply.isSuccess = false) :
    reply.completion = .error reply.refusal := by
  simp [HttpReply.completion, h, throw, throwThe, MonadExceptOf.throw, bind, Except.bind]

/-- A call that is not answered fails, and it makes sense to try it again. -/
theorem invoke_unanswered (h : ∀ reply, ¬ m.Answers request reply) :
    ∃ failure, (m.invoke request).1 = .error failure ∧ failure.isRetryable = true := by
  by_cases hkey : isHeaderText m.key = true
  · by_cases htime : (m.exchangeFor request).milliseconds < m.deadline * 1000
    · have hresult : (m.invoke request).1 = response request (m.exchangeFor request) := by
        rw [invoke, if_pos hkey]
        exact if_pos htime
      cases hreceived : (m.exchangeFor request).outcome with
      | error reason =>
        refine ⟨.request reason, ?_, rfl⟩
        rw [hresult, response, hreceived]
        rfl
      | ok reply =>
        have hrefused : reply.isSuccess = false := by
          by_contra hsuccess
          exact h reply ⟨hkey, htime, hreceived, eq_true_of_ne_false hsuccess⟩
        refine ⟨reply.refusal, ?_, rfl⟩
        rw [hresult, response_unread hreceived (completion_refused hrefused)]
    · refine ⟨.timeout m.deadline, ?_, rfl⟩
      rw [invoke, if_pos hkey]
      exact if_neg htime
  · refine ⟨.request "builder error", ?_, rfl⟩
    rw [invoke, if_neg hkey]

/-- A call that failed is worth another try iff the service did not answer it. -/
theorem isRetryable_iff {failure : Failure} (hresult : (m.invoke request).1 = .error failure) :
    failure.isRetryable = true ↔ ∀ reply, ¬ m.Answers request reply := by
  constructor
  · intro hretry reply hanswers
    obtain ⟨reason, rfl⟩ := hanswers.invoke_error hresult
    cases hretry
  · intro hunanswered
    obtain ⟨failure', hresult', hretry⟩ := invoke_unanswered hunanswered
    obtain rfl : failure = failure' := Except.error.inj (hresult.symm.trans hresult')
    exact hretry

end HostedModel

end ArtifactPipeline
