import ArtifactPipeline.Proofs.Counters
import ArtifactPipeline.Proofs.Representation

/-!
# Sessions that take turns

The work on several sessions reaches the store in turns. What the store holds of a session, and what
it answers to the calls that are made for that session, depends only on those calls. The patterns
are shared; all uses are counted, whoever's turn it is.
-/

namespace ArtifactPipeline

/-! ## Interleavings -/

/-- Which of two parties is served. -/
inductive Turn where
  | first
  | second

/-- The third list is merged from the first two, whose items are taken in turns and in order. -/
inductive Interleaves {α : Type} : List Turn → List α → List α → List α → Prop
  | done : Interleaves [] [] [] []
  | first (a : α) {turns : List Turn} {as bs cs : List α} (rest : Interleaves turns as bs cs) :
      Interleaves (.first :: turns) (a :: as) bs (a :: cs)
  | second (b : α) {turns : List Turn} {as bs cs : List α} (rest : Interleaves turns as bs cs) :
      Interleaves (.second :: turns) as (b :: bs) (b :: cs)

/-- Nothing is lost and nothing is added when two lists are merged. -/
theorem Interleaves.countP {α : Type} {turns : List Turn} {as bs cs : List α} (p : α → Bool)
    (h : Interleaves turns as bs cs) : cs.countP p = as.countP p + bs.countP p := by
  induction h with
  | done => rfl
  | first a _ ih => rw [List.countP_cons, List.countP_cons, ih, Nat.add_right_comm]
  | second b _ ih => rw [List.countP_cons, List.countP_cons, ih, Nat.add_assoc]

/-- What holds of all items of both lists holds of all items of the merged one. -/
theorem Interleaves.forall_mem {α : Type} {turns : List Turn} {as bs cs : List α} {p : α → Prop}
    (h : Interleaves turns as bs cs) (has : ∀ a ∈ as, p a) (hbs : ∀ b ∈ bs, p b) :
    ∀ c ∈ cs, p c := by
  induction h with
  | done => exact has
  | first a _ ih =>
    rw [List.forall_mem_cons] at has ⊢
    exact ⟨has.1, ih has.2 hbs⟩
  | second b _ ih =>
    rw [List.forall_mem_cons] at hbs ⊢
    exact ⟨hbs.1, ih has hbs.2⟩

/-- A call writes a record of a session, or counts a use of a pattern. -/
def StoreCall.WritesFor (id : SessionId) : StoreCall → Prop
  | .createSession s | .updateSession s => s.id = id
  | .appendLog entry => entry.session = id
  | .appendAudit entry => entry.session = some id
  | .createReview record => record.session = id
  | .recordPatternUsage _ _ => True
  | _ => False

/-- The calls that write for a session save no pattern. -/
theorem StoreCall.WritesFor.pattern? {id : SessionId} {c : StoreCall} (h : c.WritesFor id) :
    c.pattern? = none := by
  cases c with
  | savePattern p => exact h.elim
  | _ => rfl

namespace MemoryStore

variable {m m' : MemoryStore} {c : StoreCall} {id other : SessionId}

/-- What the store answers to a call, or why it refuses it. -/
def reply (m : MemoryStore) (c : StoreCall) : Except StoreError c.Answer := (m.call c).map (·.1)

/-- The store after some calls. -/
def after (m : MemoryStore) (calls : List StoreCall) : MemoryStore := m.run (calls.map .call)

/-- Some calls, each with what the store answers to it after those before it. -/
def replies (m : MemoryStore) : List StoreCall → List (Σ c : StoreCall, Except StoreError c.Answer)
  | [] => []
  | c :: calls => ⟨c, m.reply c⟩ :: (m.step (.call c)).replies calls

/-- The first of some calls is answered first. -/
theorem after_cons (m : MemoryStore) (c : StoreCall) (calls : List StoreCall) :
    m.after (c :: calls) = (m.step (.call c)).after calls := rfl

/-- A call that is answered is written, and one that is refused is not. -/
theorem step_eq_written (m : MemoryStore) (c : StoreCall) :
    m.step (.call c) = if (m.reply c).isOk then m.written c else m := by
  cases hcall : m.call c with
  | error e => simp [step, reply, hcall, Except.map, Except.isOk, Except.toBool]
  | ok result =>
    obtain ⟨answer, next⟩ := result
    have hanswer : m.answer c = .ok (answer, next) := by
      rw [call] at hcall
      split at hcall
      · cases hcall
      · exact hcall
    have hheld := (answer_cases hanswer).1
    simpa [step, reply, hcall, Except.map, Except.isOk, Except.toBool] using hheld

/-! ## What is held of a session -/

/-- What a store holds of a session, with what all sessions share. -/
structure Held where
  offline : Bool
  /-- The version that is found under the name. -/
  session : Option Session
  logs : List LogEntry
  audit : List AuditEntry
  reviews : List ReviewRecord
  patternIds : List String

/-- What the store holds for a session, and what all sessions share. -/
def held (m : MemoryStore) (id : SessionId) : Held where
  offline := m.offline
  session := m.sessions.find? (·.id == id)
  logs := m.logs.filter (·.session == id)
  audit := m.audit.filter (·.session == some id)
  reviews := m.reviews.filter (·.session == id)
  patternIds := m.patterns.map (·.id)

/-- What is held of a session after a call was answered. -/
def Held.write (h : Held) (id : SessionId) (c : StoreCall) : Held where
  offline := h.offline
  session := (c.session?.filter (·.id == id)).or h.session
  logs := h.logs ++ c.log?.toList.filter (·.session == id)
  audit := h.audit ++ c.audit?.toList.filter (·.session == some id)
  reviews := h.reviews ++ c.review?.toList.filter (·.session == id)
  patternIds := h.patternIds

/-- The patterns keep their names when a use is counted. -/
theorem map_id_patterns_written (hc : c.pattern? = none) :
    (m.written c).patterns.map (·.id) = m.patterns.map (·.id) := by
  rw [patterns_written]
  cases c with
  | savePattern p => cases hc
  | recordPatternUsage used success =>
    dsimp only
    cases hreplace : replaceFirst? (·.id == used) (·.count success) m.patterns with
    | none => rfl
    | some patterns => exact map_key_replaceFirst? hreplace fun _ hid => hid
  | _ => rfl

/-- What is held of a session changes by what the call writes for that session. -/
theorem held_written (hc : c.pattern? = none) (id : SessionId) :
    (m.written c).held id = (m.held id).write id c := by
  have hsession : (m.written c).sessions.find? (·.id == id) =
      (c.session?.filter (·.id == id)).or (m.sessions.find? (·.id == id)) := by
    rw [sessions_written]
    cases hs : c.session? with
    | none => rfl
    | some s =>
      dsimp only
      rw [find?_key_putFirst, Option.filter_some]
      by_cases hid : id = s.id
      · simp [hid]
      · simp [hid, Ne.symm hid]
  rw [held, Held.write, offline_written, hsession, logs_written, audit_written, reviews_written,
    map_id_patterns_written hc, List.filter_append, List.filter_append, List.filter_append]
  rfl

/-- A call for another session writes nothing for this one. -/
theorem Held.write_other (h : Held) (hc : c.WritesFor other) (hother : other ≠ id) :
    h.write id c = h := by
  cases c with
  | createSession s | updateSession s =>
    have hid : s.id ≠ id := fun hid => hother (hc.symm.trans hid)
    simp [write, StoreCall.session?, StoreCall.log?, StoreCall.audit?, StoreCall.review?,
      Option.filter_some, hid]
  | appendLog entry =>
    have hid : entry.session ≠ id := fun hid => hother (hc.symm.trans hid)
    simp [write, StoreCall.session?, StoreCall.log?, StoreCall.audit?, StoreCall.review?, hid]
  | appendAudit entry =>
    have hid : entry.session ≠ some id := fun hid => hother (Option.some.inj (hc.symm.trans hid))
    simp [write, StoreCall.session?, StoreCall.log?, StoreCall.audit?, StoreCall.review?, hid]
  | createReview record =>
    have hid : record.session ≠ id := fun hid => hother (hc.symm.trans hid)
    simp [write, StoreCall.session?, StoreCall.log?, StoreCall.audit?, StoreCall.review?, hid]
  | recordPatternUsage =>
    simp [write, StoreCall.session?, StoreCall.log?, StoreCall.audit?, StoreCall.review?]
  | _ => exact hc.elim

/-- The answer to a call for a session depends on what is held of that session. -/
theorem reply_congr (h : m.held id = m'.held id) (hc : c.WritesFor id) :
    m.reply c = m'.reply c := by
  have hoffline : m.offline = m'.offline := congrArg Held.offline h
  have hsession : m.sessions.find? (·.id == id) = m'.sessions.find? (·.id == id) :=
    congrArg Held.session h
  have hknown : id ∈ m.sessions.map (·.id) ↔ id ∈ m'.sessions.map (·.id) := by
    rw [← not_iff_not, ← find?_key_eq_none, hsession, find?_key_eq_none]
  have hpatterns : m.patterns.map (·.id) = m'.patterns.map (·.id) := congrArg Held.patternIds h
  unfold reply MemoryStore.call
  rw [hoffline]
  by_cases hoff : m'.offline = true
  · rw [if_pos hoff, if_pos hoff]
  · rw [if_neg hoff, if_neg hoff]
    cases c with
    | createSession s =>
      obtain rfl : s.id = id := hc
      rw [answer_createSession, answer_createSession]
      exact if_congr hknown rfl rfl
    | updateSession s =>
      obtain rfl : s.id = id := hc
      rw [answer_updateSession, answer_updateSession]
      exact if_congr hknown rfl rfl
    | recordPatternUsage used success =>
      rw [answer_recordPatternUsage, answer_recordPatternUsage, hpatterns]
    | appendLog | appendAudit | createReview => rfl
    | _ => exact hc.elim

/-- A call for another session leaves what is held of this one as it is. -/
theorem held_step_other (hc : c.WritesFor other) (hother : other ≠ id) :
    (m.step (.call c)).held id = m.held id := by
  rcases m.step_call c with hsame | hwritten
  · rw [hsame]
  · rw [hwritten, held_written hc.pattern?, Held.write_other _ hc hother]

/-- What is held of a session after a call for it depends on what was held of it before. -/
theorem held_step_congr (h : m.held id = m'.held id) (hc : c.WritesFor id) :
    (m.step (.call c)).held id = (m'.step (.call c)).held id := by
  rw [step_eq_written, step_eq_written, reply_congr h hc]
  split
  · rw [held_written hc.pattern?, held_written hc.pattern?, h]
  · exact h

end MemoryStore

/-! ## Uses of the patterns -/

namespace MemoryStore

variable {m : MemoryStore} {c : StoreCall} {calls : List StoreCall}

/-- A call counts a use of the pattern at a place, with its outcome: the pattern is the first one
with the name, and the store is online. -/
def countsAt (m : MemoryStore) (place : Nat) (success : Bool) : StoreCall → Bool
  | .recordPatternUsage used outcome =>
    !m.offline && outcome == success && m.patterns.findIdx? (·.id == used) == some place
  | _ => false

/-- How many calls count a use of the pattern at a place, with its outcome. -/
def uses (m : MemoryStore) (calls : List StoreCall) (place : Nat) (success : Bool) : Nat :=
  calls.countP (m.countsAt place success)

/-- The patterns, in their order, with some more uses of each. -/
def grown (m : MemoryStore) (more : Nat → Bool → Nat) : List PatternRecord :=
  m.patterns.mapIdx fun place p => p.grown (more place true) (more place false)

/-- Patterns that nobody uses stay as they are. -/
theorem grown_eq_self {more : Nat → Bool → Nat} (h : ∀ place success, more place success = 0) :
    m.grown more = m.patterns := by
  refine List.ext_getElem? fun place => ?_
  simp [grown, h]

/-- The pattern that a call counts a use of is changed where it stands. -/
theorem patterns_step (hc : c.pattern? = none) :
    (m.step (.call c)).patterns = m.grown (m.uses [c]) := by
  have hnothing (hcounts : ∀ place success, m.countsAt place success c = false) :
      m.grown (m.uses [c]) = m.patterns :=
    grown_eq_self fun place success => by simp [uses, hcounts]
  cases c with
  | savePattern p => cases hc
  | recordPatternUsage used outcome =>
    by_cases hoff : m.offline = true
    · rw [hnothing fun place success => by simp [countsAt, hoff]]
      simp [step, MemoryStore.call, hoff]
    cases hfind : m.patterns.findIdx? (·.id == used) with
    | none =>
      rw [hnothing fun place success => by simp [countsAt, hfind]]
      simp [step, MemoryStore.call, answer, replaceFirst?_eq_modify, hoff, hfind]
    | some place =>
      have hstep : (m.step (.call (.recordPatternUsage used outcome))).patterns =
          m.patterns.modify place (·.count outcome) := by
        simp [step, MemoryStore.call, answer, replaceFirst?_eq_modify, hoff, hfind]
      rw [hstep]
      refine List.ext_getElem? fun i => ?_
      rw [List.getElem?_modify, grown, List.getElem?_mapIdx]
      by_cases hi : place = i
      · subst hi
        cases outcome <;> simp [uses, countsAt, hoff, hfind, PatternRecord.count_eq_grown]
      · simp [uses, countsAt, hoff, hfind, hi]
  | _ =>
    rw [hnothing fun _ _ => rfl]
    rcases m.step_call _ with hsame | hwritten
    · rw [hsame]
    · rw [hwritten, patterns_written]

/-- Which calls count a use of which pattern stays the same. -/
theorem countsAt_step (hc : c.pattern? = none) (place : Nat) (success : Bool) :
    (m.step (.call c)).countsAt place success = m.countsAt place success := by
  rcases m.step_call c with hsame | hwritten
  · rw [hsame]
  have hplace (n : MemoryStore) (used : String) : n.patterns.findIdx? (·.id == used) =
      (n.patterns.map (·.id)).findIdx? (· == used) := by
    rw [List.findIdx?_map]
    rfl
  funext c'
  cases c' with
  | recordPatternUsage used outcome =>
    rw [hwritten, countsAt, countsAt, offline_written, hplace, hplace, map_id_patterns_written hc]
  | _ => rfl

/-- Calls that save no pattern add the uses that they count, and no others. -/
theorem patterns_after (hcalls : ∀ c ∈ calls, c.pattern? = none) :
    (m.after calls).patterns = m.grown (m.uses calls) := by
  induction calls generalizing m with
  | nil => exact (grown_eq_self fun _ _ => rfl).symm
  | cons c calls ih =>
    rw [List.forall_mem_cons] at hcalls
    -- The first call moves no pattern, so the others count at the same places after it.
    have huses (place : Nat) (success : Bool) : m.uses (c :: calls) place success =
        m.uses [c] place success + (m.step (.call c)).uses calls place success := by
      rw [uses, uses, uses, countsAt_step hcalls.1, ← List.countP_append]
      rfl
    rw [after_cons, ih hcalls.2, grown, patterns_step hcalls.1]
    refine List.ext_getElem? fun place => ?_
    simp only [grown, List.getElem?_mapIdx, Option.map_map, Function.comp_def,
      PatternRecord.grown_grown, huses]

end MemoryStore

/-! ## Two sessions -/

namespace MemoryStore

variable {m first second both : MemoryStore} {a b : SessionId}

/-- Two stores tell the same of a session. -/
structure AlikeFor (id : SessionId) (m m' : MemoryStore) : Prop where
  session : m.reply (.getSession id) = m'.reply (.getSession id)
  logs : m.reply (.sessionLogs id) = m'.reply (.sessionLogs id)
  audit : m.audit.filter (·.session == some id) = m'.audit.filter (·.session == some id)
  reviews : m.reviews.filter (·.session == id) = m'.reviews.filter (·.session == id)

/-- What is held of a session is what the store tells of it. -/
theorem alikeFor_of_held {id : SessionId} {m m' : MemoryStore} (h : m.held id = m'.held id) :
    m.AlikeFor id m' := by
  have hoffline : m.offline = m'.offline := congrArg Held.offline h
  have hsession : m.sessions.find? (·.id == id) = m'.sessions.find? (·.id == id) :=
    congrArg Held.session h
  have hlogs : m.logs.filter (·.session == id) = m'.logs.filter (·.session == id) :=
    congrArg Held.logs h
  constructor
  case session =>
    cases hoff : m'.offline <;> simp [reply, call, answer, hoffline, hoff, hsession, Except.map]
  case logs =>
    cases hoff : m'.offline <;> simp [reply, call, answer, hoffline, hoff, hlogs, Except.map]
  case audit => exact congrArg Held.audit h
  case reviews => exact congrArg Held.reviews h

/-- Whoever's turn it is, each call is answered as if only the calls for its own session were made,
and the same is held of that session. -/
theorem replies_interleave {turns : List Turn} {as bs cs : List StoreCall}
    (h : Interleaves turns as bs cs) (hab : a ≠ b) (has : ∀ c ∈ as, c.WritesFor a)
    (hbs : ∀ c ∈ bs, c.WritesFor b) (hfirst : both.held a = first.held a)
    (hsecond : both.held b = second.held b) :
    Interleaves turns (first.replies as) (second.replies bs) (both.replies cs) ∧
      (both.after cs).held a = (first.after as).held a ∧
      (both.after cs).held b = (second.after bs).held b := by
  -- Whoever is served, the store of both and that of the one served change alike as to its session,
  -- and the store of both keeps what it holds of the other session.
  induction h generalizing first second both with
  | done => exact ⟨.done, hfirst, hsecond⟩
  | first c _ ih =>
    rw [List.forall_mem_cons] at has
    have hreply : both.reply c = first.reply c := reply_congr hfirst has.1
    have hother : (both.step (.call c)).held b = second.held b :=
      (held_step_other has.1 hab).trans hsecond
    obtain ⟨hreplies, hheld⟩ := ih has.2 hbs (held_step_congr hfirst has.1) hother
    refine ⟨?_, hheld⟩
    rw [MemoryStore.replies, MemoryStore.replies, hreply]
    exact .first _ hreplies
  | second c _ ih =>
    rw [List.forall_mem_cons] at hbs
    have hreply : both.reply c = second.reply c := reply_congr hsecond hbs.1
    have hother : (both.step (.call c)).held a = first.held a :=
      (held_step_other hbs.1 hab.symm).trans hfirst
    obtain ⟨hreplies, hheld⟩ := ih has hbs.2 hother (held_step_congr hsecond hbs.1)
    refine ⟨?_, hheld⟩
    rw [MemoryStore.replies, MemoryStore.replies, hreply]
    exact .second _ hreplies

/-- At each place, a pattern has become one that gained the uses by which it has grown. -/
theorem gains_grown {more : Nat → Bool → Nat} {place : Nat} {p : PatternRecord}
    (hp : m.patterns[place]? = some p) :
    ∃ q, (m.grown more)[place]? = some q ∧ p.Gains q (more place true) (more place false) := by
  refine ⟨_, ?_, p.gains_grown _ _⟩
  rw [grown, List.getElem?_mapIdx, hp, Option.map_some]

/-- Sessions that take turns with a store do not disturb each other: in whatever order the calls for
two sessions are merged, each is answered as if only the calls for its own session were made, and
the store tells the same of each session as if it had been alone. No use of a pattern is lost: each
pattern gains the sum of the uses that the two sequences count. -/
theorem interleaved_undisturbed (m : MemoryStore) (hab : a ≠ b) {as bs cs : List StoreCall}
    (has : ∀ c ∈ as, c.WritesFor a) (hbs : ∀ c ∈ bs, c.WritesFor b) {turns : List Turn}
    (h : Interleaves turns as bs cs) :
    Interleaves turns (m.replies as) (m.replies bs) (m.replies cs) ∧
      (m.after cs).AlikeFor a (m.after as) ∧
      (m.after cs).AlikeFor b (m.after bs) ∧
      (m.after as).patterns = m.grown (m.uses as) ∧
      (m.after bs).patterns = m.grown (m.uses bs) ∧
      (m.after cs).patterns =
        (m.grown fun place success => m.uses as place success + m.uses bs place success) ∧
      ∀ (place : Nat) (p : PatternRecord), m.patterns[place]? = some p →
        ∃ q, (m.after cs).patterns[place]? = some q ∧
          p.Gains q (m.uses as place true + m.uses bs place true)
            (m.uses as place false + m.uses bs place false) := by
  obtain ⟨hreplies, ha, hb⟩ := replies_interleave h hab has hbs rfl rfl
  have hsaved {calls : List StoreCall} {id : SessionId} (hcalls : ∀ c ∈ calls, c.WritesFor id) :
      ∀ c ∈ calls, c.pattern? = none := fun c hc => (hcalls c hc).pattern?
  have huses : m.uses cs = fun place success => m.uses as place success + m.uses bs place success :=
    funext fun place => funext fun success => h.countP _
  have hpatterns : (m.after cs).patterns =
      m.grown fun place success => m.uses as place success + m.uses bs place success := by
    rw [← huses]
    exact patterns_after (h.forall_mem (hsaved has) (hsaved hbs))
  refine ⟨hreplies, alikeFor_of_held ha, alikeFor_of_held hb, patterns_after (hsaved has),
    patterns_after (hsaved hbs), hpatterns, fun place p hp => ?_⟩
  rw [hpatterns]
  exact gains_grown hp

/-- Two sessions are created in turns, and both refer to one pattern. One of them is created twice,
and the other one counts a use of a pattern that is not there. -/
theorem two_sessions_undisturbed :
    let request : ComponentRequest := { tenant := "acme", user := "ann", prompt := "A card" }
    let s : Session := .new ⟨1⟩ request 3 default
    let t : Session := .new ⟨2⟩ request 3 default
    let card : PatternRecord := {
      id := "card", name := "Card", intent := .custom, code := none
      usageCount := 4, successCount := 3, failureCount := 1 }
    let m : MemoryStore := { patterns := [card] }
    let as : List StoreCall := [.createSession s, .recordPatternUsage "card" true, .createSession s]
    let bs : List StoreCall :=
      [.createSession t, .recordPatternUsage "form" true, .recordPatternUsage "card" false]
    let cs : List StoreCall :=
      [.createSession s, .createSession t, .recordPatternUsage "form" true,
        .recordPatternUsage "card" true, .recordPatternUsage "card" false, .createSession s]
    let turns : List Turn := [.first, .second, .second, .first, .second, .first]
    s.id ≠ t.id ∧ (∀ c ∈ as, c.WritesFor s.id) ∧ (∀ c ∈ bs, c.WritesFor t.id) ∧
      Interleaves turns (m.replies as) (m.replies bs) (m.replies cs) ∧
      (m.after cs).AlikeFor s.id (m.after as) ∧ (m.after cs).AlikeFor t.id (m.after bs) ∧
      (m.after cs).patterns =
        [{ card with usageCount := 6, successCount := 4, failureCount := 2 }] := by
  intro request s t card m as bs cs turns
  have hids : s.id ≠ t.id := by decide
  have has : ∀ c ∈ as, c.WritesFor s.id := by simp [as, StoreCall.WritesFor]
  have hbs : ∀ c ∈ bs, c.WritesFor t.id := by simp [bs, StoreCall.WritesFor]
  have hcs : Interleaves turns as bs cs :=
    .first _ (.second _ (.second _ (.first _ (.second _ (.first _ .done)))))
  obtain ⟨hreplies, hs, ht, -, -, hpatterns, -⟩ := m.interleaved_undisturbed hids has hbs hcs
  exact ⟨hids, has, hbs, hreplies, hs, ht, hpatterns⟩

end MemoryStore

end ArtifactPipeline
