import ArtifactPipeline.Model.Script
import Mathlib.Data.List.FinRange
import Mathlib.Data.List.Infix

/-!
# Replies by position

A scripted model uses up the replies of its scripts. What it answers can be said without that: a
request belongs to the first script whose pattern its text contains, and the answer is the reply at
the place that counts the earlier requests of this script, or the last reply if there are no more.
-/

namespace ArtifactPipeline

open Text

/-! ## What a model is set up with -/

/-- Replies to requests that contain a pattern, in the forms in which they are added to a model. -/
inductive Registration where
  | response (pattern content : String)
  | sequence (pattern : String) (contents : List String)
  | failure (pattern reason : String)
  | replies (pattern : String) (contents : List Reply)

/-- Replies to requests that contain a pattern. There is at least one. -/
structure ReplyQueue where
  pattern : String
  replies : List Reply
  nonempty : 0 < replies.length

namespace Registration

/-- Adds the replies to a model. -/
def addTo (m : ScriptedModel) : Registration → ScriptedModel
  | response pattern content => m.withResponse pattern content
  | sequence pattern contents => m.withSequence pattern contents
  | failure pattern reason => m.withFailure pattern reason
  | replies pattern contents => m.withReplies pattern contents

/-- The pattern that a request has to contain. -/
def pattern : Registration → String
  | response pattern _ | sequence pattern _ | failure pattern _ | replies pattern _ => pattern

/-- The replies in order. -/
def all : Registration → List Reply
  | response _ content => [.text content]
  | sequence _ contents => contents.map .text
  | failure _ reason => [.failure reason]
  | replies _ contents => contents

/-- The replies, if there are any. -/
def queue? (r : Registration) : Option ReplyQueue :=
  if h : 0 < r.all.length then some ⟨r.pattern, r.all, h⟩ else none

end Registration

/-- A model with some scripts that has not received a request yet. -/
def ScriptedModel.registered (registrations : List Registration) (default : Option String) :
    ScriptedModel :=
  registrations.foldl Registration.addTo { default }

/-! ## What a model has to answer -/

/-- The answer that a reply stands for. -/
def Reply.answer (request : ModelRequest) : Reply → Except Failure ModelResponse
  | text content => .ok (ScriptedModel.respond request content)
  | failure reason => .error (.provider reason)

namespace ReplyQueue

variable (q : ReplyQueue) (served : Nat)

/-- The place of the reply after some others have been given. The last place stays. -/
def place : Nat := min served (q.replies.length - 1)

/-- A queue always has a reply at the place that is reached. -/
theorem place_lt : q.place served < q.replies.length := by
  have hpos := q.nonempty
  unfold place
  omega

/-- The reply after some others have been given. -/
def reply : Reply := q.replies.get ⟨q.place served, q.place_lt served⟩

/-- The script after some replies have been given. -/
def scriptAfter : Script where
  pattern := q.pattern
  next := q.reply served
  later := q.replies.drop (q.place served + 1)

end ReplyQueue

variable (queues : List ReplyQueue)

/-- The first queue whose pattern is contained in the text of a request. -/
def firstQueue? (request : ModelRequest) : Option (Fin queues.length) :=
  queues.findFinIdx? fun q => q.pattern.toList <:+: request.fullText.toList

/-- How many requests belong to a queue. -/
def callsOf (requests : List ModelRequest) (i : Fin queues.length) : Nat :=
  requests.countP fun r => firstQueue? queues r = some i

/-- The answer to a request after some earlier ones: by the place in the first queue, or without a
queue the default or an echo. -/
def answerAt (default : Option String) (earlier : List ModelRequest) (request : ModelRequest) :
    Except Failure ModelResponse :=
  match firstQueue? queues request with
  | some i => (queues[i].reply (callsOf queues earlier i)).answer request
  | none =>
    .ok (ScriptedModel.respond request
      (default.getD ("Mock response for: " ++ request.fullText)))

/-- The model after some requests. -/
def ScriptedModel.after (default : Option String) (requests : List ModelRequest) :
    ScriptedModel where
  scripts := (List.finRange queues.length).map fun i =>
    queues[i].scriptAfter (callsOf queues requests i)
  default
  history := requests

/-- The answers of a service to requests one after another, and the service after them. -/
def invokeAll {σ : Type} [ModelService σ] :
    List ModelRequest → σ → List (Except Failure ModelResponse) × σ
  | [], service => ([], service)
  | request :: requests, service =>
    let (answer, service) := ModelService.invoke request service
    let (answers, service) := invokeAll requests service
    (answer :: answers, service)

/-- The replies that a script still has. -/
def Script.replies (s : Script) : List Reply := s.next :: s.later

/-- What requests one after another get, and what they leave behind. -/
structure ServedByPosition (default : Option String) (requests : List ModelRequest)
    (answers : List (Except Failure ModelResponse)) (m : ScriptedModel) : Prop where
  answers : answers = requests.mapIdx fun k request =>
    answerAt queues default (requests.take k) request
  remaining : m.scripts.map Script.replies = (List.finRange queues.length).map fun i =>
    queues[i].replies.drop (min (callsOf queues requests i) (queues[i].replies.length - 1))
  nonempty : ∀ replies ∈ m.scripts.map Script.replies, replies ≠ []
  /-- Requests that failed are in the history too. -/
  history : m.history = requests

/-! ## Containment -/

/-- The search for a text finds it wherever it stands. -/
theorem Text.occursIn_iff_infix {needle text : List Char} :
    occursIn needle text = true ↔ needle <:+: text := by
  unfold occursIn
  induction text with
  | nil =>
    unfold indexOf?
    rw [List.infix_nil, ← List.isEmpty_iff]
    cases needle.isEmpty <;> decide
  | cons c text ih =>
    unfold indexOf?
    rw [List.infix_cons_iff, ← ih]
    by_cases hprefix : needle.isPrefixOf (c :: text) = true
    · rw [if_pos hprefix]
      exact iff_of_true rfl (.inl (List.isPrefixOf_iff_prefix.mp hprefix))
    · have hnot : ¬ needle <+: c :: text := mt List.isPrefixOf_iff_prefix.mpr hprefix
      rw [if_neg hprefix, Option.isSome_map, or_iff_right hnot]

/-! ## One queue -/

namespace ReplyQueue

variable (q : ReplyQueue) (served : Nat)

/-- After some requests a script still has the replies from the reached place on. -/
theorem replies_scriptAfter :
    (q.scriptAfter served).replies = q.replies.drop (q.place served) :=
  (List.drop_eq_getElem_cons (q.place_lt served)).symm

/-- Before any request a script has all its replies. -/
theorem scriptAfter_zero (pattern : String) (next : Reply) (later : List Reply)
    (h : 0 < (next :: later).length) :
    (ReplyQueue.mk pattern (next :: later) h).scriptAfter 0 = { pattern, next, later } := by
  simp [scriptAfter, reply, place]

/-- Giving a reply leads from one place to the next one. -/
theorem advance_scriptAfter : (q.scriptAfter served).advance = q.scriptAfter (served + 1) := by
  have hpos := q.nonempty
  by_cases hlast : q.replies.length ≤ served + 1
  · have hlater : (q.scriptAfter served).later = [] := by
      apply List.drop_eq_nil_of_le
      unfold place
      omega
    have hplace : q.place (served + 1) = q.place served := by
      unfold place
      omega
    unfold Script.advance
    rw [hlater]
    unfold scriptAfter reply
    simp only [hplace]
  · have hplace : q.place (served + 1) = q.place served + 1 := by
      unfold place
      omega
    have hlater : (q.scriptAfter served).later = (q.scriptAfter (served + 1)).replies := by
      rw [replies_scriptAfter, hplace]
      rfl
    unfold Script.advance
    rw [hlater]
    rfl

end ReplyQueue

/-! ## The first script -/

/-- The first script that answers a text gives its next reply and moves on; the others stay. -/
theorem nextReply_eq_some {text : String} {scripts : List Script} {i : Nat}
    (hi : i < scripts.length) (hanswers : scripts[i].answers text = true)
    (hfirst : ∀ k (hk : k < i), scripts[k].answers text = false) :
    nextReply text scripts = some (scripts[i].next, scripts.set i scripts[i].advance) := by
  induction scripts generalizing i with
  | nil => cases hi
  | cons s scripts ih =>
    unfold nextReply
    cases i with
    | zero =>
      rw [List.getElem_cons_zero] at hanswers
      rw [if_pos hanswers]
      rfl
    | succ i =>
      have hs := hfirst 0 (by omega)
      rw [List.getElem_cons_zero] at hs
      rw [if_neg (by simp [hs]), ih (by simpa using hi) hanswers
        fun k hk => hfirst (k + 1) (by omega)]
      rfl

/-- There is no reply if no script answers the text. -/
theorem nextReply_eq_none {text : String} {scripts : List Script}
    (h : ∀ s ∈ scripts, s.answers text = false) : nextReply text scripts = none := by
  induction scripts with
  | nil => rfl
  | cons s scripts ih =>
    have hs := h s List.mem_cons_self
    unfold nextReply
    rw [if_neg (by simp [hs]), ih fun s' hs' => h s' (List.mem_cons_of_mem _ hs')]
    rfl

/-- A script answers the same texts after any number of requests. -/
theorem answers_scriptAfter (q : ReplyQueue) (served : Nat) (request : ModelRequest) :
    (q.scriptAfter served).answers request.fullText =
      decide (q.pattern.toList <:+: request.fullText.toList) := by
  rw [Bool.eq_iff_iff, decide_eq_true_eq]
  exact occursIn_iff_infix

variable {queues} {request : ModelRequest}

/-- A further request belongs to its first queue and to no other. -/
theorem callsOf_append (queues : List ReplyQueue) (earlier : List ModelRequest)
    (request : ModelRequest) (i : Fin queues.length) :
    callsOf queues (earlier ++ [request]) i =
      callsOf queues earlier i + if firstQueue? queues request = some i then 1 else 0 := by
  unfold callsOf
  rw [List.countP_append, List.countP_singleton]
  simp only [decide_eq_true_eq]

namespace ScriptedModel

/-- The model keeps its scripts. -/
theorem length_scripts_after (queues : List ReplyQueue) (default : Option String)
    (requests : List ModelRequest) :
    (after queues default requests).scripts.length = queues.length := by
  unfold after
  rw [List.length_map, List.length_finRange]

/-- Each script has moved on by the requests that belong to its queue. -/
theorem getElem_scripts_after (queues : List ReplyQueue) (default : Option String)
    (requests : List ModelRequest) {k : Nat} (hk : k < queues.length)
    (hscript : k < (after queues default requests).scripts.length) :
    (after queues default requests).scripts[k] =
      queues[k].scriptAfter (callsOf queues requests ⟨k, hk⟩) := by
  simp [after]

/-- A request moves its own queue on, and no other one. -/
theorem set_scripts_after {i : Fin queues.length} (h : firstQueue? queues request = some i)
    (default : Option String) (earlier : List ModelRequest) :
    (after queues default earlier).scripts.set i
        (queues[i].scriptAfter (callsOf queues earlier i)).advance =
      (after queues default (earlier ++ [request])).scripts := by
  apply List.ext_getElem
  · rw [List.length_set, length_scripts_after, length_scripts_after]
  · intro k hk _
    rw [List.length_set, length_scripts_after] at hk
    rw [List.getElem_set, getElem_scripts_after _ _ _ hk, getElem_scripts_after _ _ _ hk,
      callsOf_append, h, ReplyQueue.advance_scriptAfter]
    by_cases hik : i = k
    · subst hik
      rw [if_pos rfl, if_pos rfl]
      rfl
    · rw [if_neg hik, if_neg fun hsame => hik (congrArg Fin.val (Option.some.inj hsame))]
      rfl

/-- A request that belongs to a queue gets the reply at its place. -/
theorem nextReply_after_some {i : Fin queues.length} (h : firstQueue? queues request = some i)
    (default : Option String) (earlier : List ModelRequest) :
    nextReply request.fullText (after queues default earlier).scripts =
      some (queues[i].reply (callsOf queues earlier i),
        (after queues default (earlier ++ [request])).scripts) := by
  obtain ⟨hcontains, hfirst⟩ := List.findFinIdx?_eq_some_iff.mp h
  have hi : i.val < (after queues default earlier).scripts.length := by
    rw [length_scripts_after]
    exact i.isLt
  have hscript : (after queues default earlier).scripts[i.val] =
      queues[i].scriptAfter (callsOf queues earlier i) :=
    getElem_scripts_after queues default earlier i.isLt hi
  have hanswers : (after queues default earlier).scripts[i.val].answers request.fullText = true := by
    rwa [hscript, answers_scriptAfter]
  have hearlier (k : Nat) (hk : k < i) :
      (after queues default earlier).scripts[k].answers request.fullText = false := by
    rw [getElem_scripts_after queues default earlier (by omega) (by omega), answers_scriptAfter]
    exact eq_false_of_ne_true (hfirst ⟨k, by omega⟩ hk)
  rw [nextReply_eq_some hi hanswers hearlier, hscript, set_scripts_after h]
  rfl

/-- A request that belongs to no queue moves none on. -/
theorem nextReply_after_none (h : firstQueue? queues request = none) (default : Option String)
    (earlier : List ModelRequest) :
    nextReply request.fullText (after queues default earlier).scripts = none ∧
      after queues default (earlier ++ [request]) =
        { after queues default earlier with history := earlier ++ [request] } := by
  constructor
  · apply nextReply_eq_none
    intro s hs
    obtain ⟨i, -, rfl⟩ := List.mem_map.mp hs
    rw [answers_scriptAfter]
    exact eq_false_of_ne_true (List.findFinIdx?_eq_none_iff.mp h _ (List.getElem_mem _))
  · unfold after
    simp only [callsOf_append, h, reduceCtorEq, if_false, Nat.add_zero]

/-- One request: the answer is the one for its position, and the model is the one after it. -/
theorem invoke_after (queues : List ReplyQueue) (default : Option String)
    (earlier : List ModelRequest) (request : ModelRequest) :
    invoke request (after queues default earlier) =
      (answerAt queues default earlier request, after queues default (earlier ++ [request])) := by
  unfold invoke answerAt
  cases h : firstQueue? queues request with
  | none =>
    obtain ⟨hreply, hmodel⟩ := nextReply_after_none h default earlier
    simp only [hreply, hmodel]
    rfl
  | some i =>
    have hreply := nextReply_after_some h default earlier
    simp only [hreply]
    cases queues[i].reply (callsOf queues earlier i) with
    | text content => rfl
    | failure reason => rfl

/-- Requests one after another, from any point on. -/
theorem invokeAll_after (queues : List ReplyQueue) (default : Option String)
    (earlier requests : List ModelRequest) :
    invokeAll requests (after queues default earlier) =
      (requests.mapIdx fun k request =>
          answerAt queues default (earlier ++ requests.take k) request,
        after queues default (earlier ++ requests)) := by
  induction requests generalizing earlier with
  | nil =>
    rw [List.append_nil]
    rfl
  | cons request requests ih =>
    unfold invokeAll
    have hstep : ModelService.invoke request (after queues default earlier) =
      (answerAt queues default earlier request, after queues default (earlier ++ [request])) :=
      invoke_after queues default earlier request
    rw [hstep, List.mapIdx_cons, List.take_zero, List.append_nil]
    simp only [ih, List.append_assoc, List.singleton_append, List.take_succ_cons]

/-- Adding replies adds their queue, if there is one. -/
theorem addTo_eq (m : ScriptedModel) (r : Registration) :
    r.addTo m = { m with scripts := m.scripts ++ r.queue?.toList.map (·.scriptAfter 0) } := by
  have hreplies : r.addTo m = m.withReplies r.pattern r.all := by
    cases r <;> rfl
  rw [hreplies]
  unfold Registration.queue?
  generalize r.all = contents
  cases contents with
  | nil => simp [withReplies]
  | cons next later => simp [withReplies, ReplyQueue.scriptAfter_zero]

/-- A model that is set up with some scripts has their queues, and has given no reply. -/
theorem registered_eq (registrations : List Registration) (default : Option String) :
    registered registrations default =
      after (registrations.filterMap Registration.queue?) default [] := by
  have hadded (m : ScriptedModel) : registrations.foldl Registration.addTo m =
      { m with scripts := m.scripts ++
          (registrations.filterMap Registration.queue?).map (·.scriptAfter 0) } := by
    induction registrations generalizing m with
    | nil => simp
    | cons r registrations ih =>
      rw [List.foldl_cons, ih, addTo_eq]
      cases hqueue : r.queue? with
      | none => simp [hqueue]
      | some q => simp [hqueue]
  have hqueues (queues : List ReplyQueue) : queues.map (·.scriptAfter 0) =
      (List.finRange queues.length).map fun i => queues[i].scriptAfter (callsOf queues [] i) := by
    apply List.ext_getElem
    · simp
    · intro k hk _
      simp [callsOf]
  unfold registered after
  rw [hadded, hqueues]
  rfl

/-- The replies that are left in each script, by the requests that belong to its queue. -/
theorem replies_after (queues : List ReplyQueue) (default : Option String)
    (requests : List ModelRequest) :
    (after queues default requests).scripts.map Script.replies =
      (List.finRange queues.length).map fun i =>
        queues[i].replies.drop (queues[i].place (callsOf queues requests i)) := by
  unfold after
  rw [List.map_map]
  apply List.map_congr_left
  intro i _
  exact ReplyQueue.replies_scriptAfter _ _

-- The first pattern hides the second one, and its last reply stays.
example :
    let request (text : String) : ModelRequest := { modelId := "mock", messages := [⟨.user, text⟩] }
    let m := registered [.sequence "fix" ["first", "second"], .response "fix it" "never"] none
    (invokeAll [request "fix it", request "fix", request "other", request "fix it"] m).1.map
        (·.toOption.map (·.content)) =
      [some "first", some "second", some "Mock response for: other", some "second"] := by
  decide +kernel

end ScriptedModel

end ArtifactPipeline
