import ArtifactPipeline.Proofs.RepairRounds
import ArtifactPipeline.Proofs.Updates

/-!
# The chain of repairs

The repairs of a run are linked: each of them is asked for the code that the one before returned,
with the reasons for which that code was rejected, and with all repairs before. The invariant of the
loop says where a number of repairs has led to; what is asked next is read off it.
-/

namespace ArtifactPipeline

variable {σ π : Type}

/-- One repair of a run: the flight that its round began with, and what the model returned. -/
structure RepairCall (σ π : Type) where
  start : Flight σ π
  result : Except Failure ModelResponse

namespace RepairCall

/-- What was asked. -/
def task (r : RepairCall σ π) : RepairTask := r.start.repairTask

/-- The call of the model. -/
def call (config : Config) (r : RepairCall σ π) : ModelRequest × Except Failure ModelResponse :=
  (r.start.repairRequest config, r.result)

/-- What later repairs are told about it. -/
def attempt (r : RepairCall σ π) : Attempt := ⟨r.task.code, r.task.errors⟩

/-- The component after some repairs: the code of a reply takes its place, a reply without code
leaves it. -/
def codeAfter (code : Option String) (repairs : List (RepairCall σ π)) : Option String :=
  repairs.foldl (fun code r => (repairedCode? r.result).or code) code

end RepairCall

/-- Where there is a component, there is one after each repair. -/
theorem RepairCall.codeAfter_some (code : String) (repairs : List (RepairCall σ π)) :
    ∃ code', codeAfter (some code) repairs = some code' := by
  induction repairs generalizing code with
  | nil => exact ⟨code, rfl⟩
  | cons r repairs ih =>
    rw [codeAfter, List.foldl_cons]
    cases hfruit : repairedCode? r.result with
    | none => exact ih code
    | some code' => exact ih code'

/-- A number of repairs leads from the first flight to the second one. -/
structure Flight.LeadsTo (f : Flight σ π) (repairs : List (RepairCall σ π)) (f' : Flight σ π) :
    Prop where
  keeps : f.Keeps f'
  assess : f'.world.assess = f.world.assess
  code : f'.session.code = RepairCall.codeAfter f.session.code repairs
  attempts : f'.session.attempts = f.session.attempts + repairs.length
  previous : f'.run.previous = f.run.previous ++ repairs.map RepairCall.attempt

/-- A flight leads to itself without a repair. -/
theorem Flight.LeadsTo.refl (f : Flight σ π) : f.LeadsTo [] f :=
  ⟨⟨rfl, rfl⟩, rfl, rfl, rfl, (List.append_nil _).symm⟩

/-- A repair may go before others. -/
theorem Flight.LeadsTo.trans {f f' f'' : Flight σ π} {xs ys : List (RepairCall σ π)}
    (h : f.LeadsTo xs f') (h' : f'.LeadsTo ys f'') : f.LeadsTo (xs ++ ys) f'' where
  keeps := ⟨h'.keeps.origin.trans h.keeps.origin, h'.keeps.plan.trans h.keeps.plan⟩
  assess := h'.assess.trans h.assess
  code := by rw [h'.code, h.code, RepairCall.codeAfter, RepairCall.codeAfter,
    RepairCall.codeAfter, List.foldl_append]
  attempts := by rw [h'.attempts, h.attempts, List.length_append, Nat.add_assoc]
  previous := by rw [h'.previous, h.previous, List.map_append, List.append_assoc]

/-- What is asked after a number of repairs. -/
theorem Flight.LeadsTo.repairTask {f f' : Flight σ π} {repairs : List (RepairCall σ π)}
    {code : String} (h : f.LeadsTo repairs f')
    (hcode : RepairCall.codeAfter f.session.code repairs = some code) :
    f'.repairTask = {
      code
      errors := (f.world.assess f.session.tenant code).errorMessages
      attempt := f.session.attempts + repairs.length + 1
      maxAttempts := f.session.maxAttempts
      previous := f.run.previous ++ repairs.map RepairCall.attempt } := by
  have htenant : f'.session.tenant = f.session.tenant := congrArg Origin.tenant h.keeps.origin
  have hlimit : f'.session.maxAttempts = f.session.maxAttempts :=
    congrArg Origin.maxAttempts h.keeps.origin
  have hcode' : f'.code = code := by rw [Flight.code, h.code, hcode, Option.getD_some]
  rw [Flight.repairTask, Flight.verdict, hcode', h.assess, htenant, h.attempts, hlimit, h.previous]

variable [ModelService σ] [Publisher π]

namespace FlightWork

/-- The flight after a number of rounds, each of which asked for another one. -/
def roundsAfter (config : Config) : Nat → Flight σ π → Option (Flight σ π)
  | 0, f => some f
  | count + 1, f =>
    match round config f with
    | .ok .again f' => roundsAfter config count f'
    | _ => none

/-- The rounds from a flight on make a number of repairs, and leave a session. -/
structure Repairs (config : Config) (f : Flight σ π) (repairs : List (RepairCall σ π))
    (s : Session) : Prop where
  rounds : ∀ k r, repairs[k]? = some r → roundsAfter config k f = some r.start
  handed : ∀ r ∈ repairs, ∃ asked, r.start.HandsOver config asked
  leads : ∀ k r, repairs[k]? = some r → f.LeadsTo (repairs.take k) r.start
  fruitful : ∀ k r, repairs[k]? = some r → k + 1 < repairs.length → repairedCode? r.result ≠ none
  code : s.code = RepairCall.codeAfter f.session.code repairs
  plan : s.plan = f.session.plan
  origin : s.origin = f.session.origin

variable {config : Config} {f f' : Flight σ π} {repairs : List (RepairCall σ π)} {s : Session}

/-- A flight that was asked for no repair keeps its code and has an empty chain. -/
theorem Repairs.unasked (hkeeps : f.Keeps f') (hcode : f'.session.code = f.session.code) :
    Repairs config f [] f'.session where
  rounds := by simp
  handed := by simp
  leads := by simp
  fruitful := by simp
  code := hcode
  plan := hkeeps.plan
  origin := hkeeps.origin

/-- A reply without code ends the chain. -/
theorem Repairs.last {asked : Flight σ π} {result : Except Failure ModelResponse}
    (hasked : f.HandsOver config asked) (hfruit : repairedCode? result = none)
    (hkeeps : f.Keeps f') (hcode : f'.session.code = f.session.code) :
    Repairs config f [⟨f, result⟩] f'.session where
  rounds k r hr := by
    cases k with
    | zero => cases hr; rfl
    | succ k => cases hr
  handed r hr := by
    rw [List.mem_singleton.mp hr]
    exact ⟨asked, hasked⟩
  leads k r hr := by
    cases k with
    | zero => cases hr; exact .refl f
    | succ k => cases hr
  fruitful k r hr hk := by simp at hk
  code := by simp [RepairCall.codeAfter, hfruit, hcode]
  plan := hkeeps.plan
  origin := hkeeps.origin

/-- A reply with code goes before the repairs of the rounds that follow. -/
theorem Repairs.cons {asked : Flight σ π} {result : Except Failure ModelResponse} {code : String}
    (hasked : f.HandsOver config asked) (hround : round config f = .ok .again f')
    (hfruit : repairedCode? result = some code) (hleads : f.LeadsTo [⟨f, result⟩] f')
    (h : Repairs config f' repairs s) : Repairs config f (⟨f, result⟩ :: repairs) s where
  rounds k r hr := by
    cases k with
    | zero => cases hr; rfl
    | succ k =>
      rw [roundsAfter, hround]
      exact h.rounds k r hr
  handed r hr := by
    rcases List.mem_cons.mp hr with rfl | hr
    · exact ⟨asked, hasked⟩
    · exact h.handed r hr
  leads k r hr := by
    cases k with
    | zero => cases hr; exact .refl f
    | succ k => exact hleads.trans (h.leads k r hr)
  fruitful k r hr hk := by
    cases k with
    | zero => cases hr; simp [hfruit]
    | succ k => exact h.fruitful k r hr (Nat.lt_of_succ_lt_succ hk)
  code := by
    rw [h.code, hleads.code]
    rfl
  plan := h.plan.trans hleads.keeps.plan
  origin := h.origin.trans hleads.keeps.origin

/-- The rounds of a run make a chain of repairs, and its calls are the calls of the model. -/
theorem settle_repairs {request : ComponentRequest} {w : World σ π} (rounds : Nat) {done : Nat}
    (h : Underway config request w done f.session f.world)
    (hrounds : config.pipeline.maxAttempts + 1 ≤ done + rounds) :
    ∃ repairs : List (RepairCall σ π),
      f.world.Consults (repairs.map (RepairCall.call config))
        (endState (settle config rounds f)).world ∧
      Repairs config f repairs (endState (settle config rounds f)).session := by
  induction rounds generalizing f done with
  | zero =>
    have hbound := h.bound
    omega
  | succ rounds ih =>
    have hends := round_ends config h.edge
    have hround := round_repairs config h.edge
    rw [settle]
    cases hresult : round config f with
    | error e f' =>
      rw [hresult] at hround
      rw [bind_error _ hresult]
      cases hround with
      | unasked hyields hcalls hkeeps hcode =>
        have hconsults := hyields.consults
        rw [hcalls] at hconsults
        exact ⟨[], hconsults, .unasked hkeeps hcode⟩
    | ok next f' =>
      rw [hresult] at hround hends
      rw [bind_ok _ hresult]
      cases hround with
      | unasked hyields hcalls hkeeps hcode hlast =>
        cases next with
        | again => exact absurd rfl (hlast f')
        | finished =>
          have hconsults := hyields.consults
          rw [hcalls] at hconsults
          exact ⟨[], hconsults, .unasked hkeeps hcode⟩
      | @fruitless asked _ result _ hasked hyields hcalls hfruit hkeeps hcode =>
        have hconsults := hyields.consults
        rw [hcalls] at hconsults
        exact ⟨[⟨f, result⟩], hconsults, .last hasked hfruit hkeeps hcode⟩
      | @fruitful asked _ result _ code hasked hyields hcalls hfruit hkeeps hcode hattempts
          hprevious =>
        have hconsults := hyields.consults
        rw [hcalls] at hconsults
        have hleads : f.LeadsTo [⟨f, result⟩] f' := {
          keeps := hkeeps
          assess := hyields.assess
          code := by simp [RepairCall.codeAfter, hfruit, hcode]
          attempts := hattempts
          previous := hprevious }
        obtain ⟨repairs, hrest, hrepairs⟩ := ih (h.again hends) (by omega)
        exact ⟨⟨f, result⟩ :: repairs, hconsults.trans hrest, .cons hasked hresult hfruit hleads
          hrepairs⟩

omit [ModelService σ] [Publisher π] in
/-- Ending a session as failed after its work broke off asks the model nothing and leaves the
component. -/
theorem orFail_keeps {work : FlightWork σ π Unit} (hrun : orFail work f = .ok () f')
    (hopen : ∀ e g, work f = .error e g → g.session.status.isTerminal = false) :
    (endState (work f)).world.Consults [] f'.world ∧ (endState (work f)).Keeps f' ∧
      f'.session.code = (endState (work f)).session.code := by
  cases hresult : work f with
  | ok _ g =>
    rw [orFail_ok hresult] at hrun
    cases hrun
    exact ⟨⟨[], (List.append_nil _).symm, rfl⟩, ⟨rfl, rfl⟩, rfl⟩
  | error e g =>
    rw [orFail_error hresult] at hrun
    obtain ⟨f'', hfail, hyields, hcore⟩ := fail_spec e (hopen e g hresult)
    cases hrun.symm.trans hfail
    have hplan : f'.session.plan = g.session.plan := (congrArg Session.plan hcore :)
    exact ⟨hyields.consults, ⟨hyields.origin, hplan⟩, (congrArg Session.code hcore :)⟩

end FlightWork

namespace Entry

variable {entry : Entry} {config : Config} {request : ComponentRequest} {w : World σ π}
  {s : Session} {generated : Option String} {repairs : List (RepairCall σ π)} {f : Flight σ π}

/-- The flight that a run brings before its first round. -/
def produced? (entry : Entry) (config : Config) (request : ComponentRequest) (w : World σ π) :
    Option (Flight σ π) :=
  match FlightWork.plan config (Flight.start config request w) with
  | .error _ _ => none
  | .ok _ f =>
    match FlightWork.produce config request.prompt entry.phase entry.announcement f with
    | .error _ _ => none
    | .ok _ f => some f

/-- The repairs of a run that ends with a session, after some code was generated or none. -/
structure Repairs (entry : Entry) (config : Config) (request : ComponentRequest) (w : World σ π)
    (generated : Option String) (repairs : List (RepairCall σ π)) (s : Session) : Prop where
  /-- The repairs are those of the rounds of the run, in order. -/
  rounds : ∀ k r, repairs[k]? = some r →
    (entry.produced? config request w).bind (FlightWork.roundsAfter config k) = some r.start
  /-- In each of these rounds the component was rejected, and the model is asked with the task of
  the round. -/
  handed : ∀ r ∈ repairs, ∃ asked, r.start.HandsOver config asked
  /-- The task is numbered, and it holds the component as it stands, the reasons of its rejection
  and the repairs before. -/
  task : ∀ k r, repairs[k]? = some r → ∃ code,
    RepairCall.codeAfter generated (repairs.take k) = some code ∧
    r.start.session.code = some code ∧
    r.task = {
      code
      errors := (w.assess s.tenant code).errorMessages
      attempt := k + 1
      maxAttempts := s.maxAttempts
      previous := (repairs.take k).map RepairCall.attempt }
  /-- The request goes to the planned model with the planned budget. -/
  request : ∀ r ∈ repairs, ∃ plan, s.plan = some plan ∧
    (r.call config).1 = r.task.request config (some plan) ∧
    (r.call config).1.modelId = plan.modelId ∧ (r.call config).1.maxTokens = plan.estimatedTokens
  /-- Only the last reply may hold no code. -/
  fruitful : ∀ k r, repairs[k]? = some r → k + 1 < repairs.length → repairedCode? r.result ≠ none
  /-- The session ends with the code that was returned last. -/
  code : s.code = RepairCall.codeAfter generated repairs

/-- A run without a repair ends with the generated code. -/
theorem Repairs.unasked (hcode : s.code = generated) :
    Repairs entry config request w generated [] s where
  rounds := by simp
  handed := by simp
  task := by simp
  request := by simp
  fruitful := by simp
  code := hcode

/-- The rounds after a component was generated make the repairs of the run. -/
theorem Repairs.of_rounds {code : String} {plan : Plan}
    (hproduced : entry.produced? config request w = some f)
    (hcode : f.session.code = some code) (hplan : f.session.plan = some plan)
    (hattempts : f.session.attempts = 0) (hprevious : f.run.previous = [])
    (hassess : f.world.assess = w.assess) (h : FlightWork.Repairs config f repairs s) :
    Repairs entry config request w (some code) repairs s := by
  have htenant : s.tenant = f.session.tenant := congrArg Origin.tenant h.origin
  have hlimit : s.maxAttempts = f.session.maxAttempts := congrArg Origin.maxAttempts h.origin
  refine ⟨?_, h.handed, ?_, ?_, h.fruitful, by rw [h.code, hcode]⟩
  · intro k r hr
    rw [hproduced, Option.bind_some, h.rounds k r hr]
  · intro k r hr
    obtain ⟨code', hcode'⟩ := RepairCall.codeAfter_some code (repairs.take k)
    have hleads := h.leads k r hr
    have hlength : (repairs.take k).length = k := by
      obtain ⟨hk, -⟩ := List.getElem?_eq_some_iff.mp hr
      rw [List.length_take]
      omega
    have htask := hleads.repairTask (by rw [hcode, hcode'])
    rw [hlength, hattempts, hprevious, hassess, ← htenant, ← hlimit, List.nil_append,
      Nat.zero_add] at htask
    exact ⟨code', hcode', by rw [hleads.code, hcode, hcode'], htask⟩
  · intro r hr
    obtain ⟨k, hk⟩ := List.getElem?_of_mem hr
    have hkept : r.start.session.plan = some plan := (h.leads k r hk).keeps.plan.trans hplan
    have hrequest : (r.call config).1 = r.task.request config (some plan) := by
      rw [← hkept]
      rfl
    exact ⟨plan, h.plan.trans hplan, hrequest, by rw [hrequest]; rfl, by rw [hrequest]; rfl⟩

/-- What a session has after a failure that ends it, it had before. -/
theorem Repairs.ended {f f' : Flight σ π}
    (h : Repairs entry config request w generated repairs f.session) (hkeeps : f.Keeps f')
    (hcode : f'.session.code = f.session.code) :
    Repairs entry config request w generated repairs f'.session := by
  have htenant : f'.session.tenant = f.session.tenant := congrArg Origin.tenant hkeeps.origin
  have hlimit : f'.session.maxAttempts = f.session.maxAttempts :=
    congrArg Origin.maxAttempts hkeeps.origin
  refine ⟨h.rounds, h.handed, ?_, ?_, h.fruitful, hcode.trans h.code⟩
  · rw [htenant, hlimit]
    exact h.task
  · rw [hkeeps.plan]
    exact h.request

/-- The work of a run leaves its session open if it breaks off, and it asks the model for a
classification, for a component and for repairs of it. -/
structure Asks (entry : Entry) (config : Config) (request : ComponentRequest) (w : World σ π)
    (result : EStateM.Result Failure (Flight σ π) Unit) : Prop where
  opened : ∀ e g, result = .error e g → g.session.status.isTerminal = false
  repairs : ∃ classified calls generated repairs,
    w.Consults ((classificationRequest config request.prompt, classified) :: calls ++
      repairs.map (RepairCall.call config)) (endState result).world ∧
    Answered config request.prompt calls generated ∧
    Repairs entry config request w generated repairs (endState result).session

section Opening

variable {classified : Except Failure ModelResponse}
  {calls : List (ModelRequest × Except Failure ModelResponse)}

/-- Work that breaks off before there is a component asks for no repair. -/
theorem asks_unproduced (hopen : f.session.status.isTerminal = false)
    (hconsults : w.Consults ((classificationRequest config request.prompt, classified) :: calls)
      f.world) (hanswered : Answered config request.prompt calls none)
    (hcode : f.session.code = none) : Asks entry config request w (.error e f) where
  opened e' g h := by
    cases h
    exact hopen
  repairs := ⟨classified, calls, none, [], by simpa [endState] using hconsults, hanswered,
    .unasked hcode⟩

/-- The rounds after a component was generated ask for repairs. -/
theorem asks_produced {code : String} {plan : Plan}
    (hproduced : entry.produced? config request w = some f)
    (hunderway : Underway config request w 0 f.session f.world)
    (hcode : f.session.code = some code) (hplan : f.session.plan = some plan)
    (hprevious : f.run.previous = [])
    (hconsults : w.Consults ((classificationRequest config request.prompt, classified) :: calls)
      f.world) (hanswered : Answered config request.prompt calls (some code)) :
    Asks entry config request w
      (FlightWork.settle config (f.session.maxAttempts - f.session.attempts + 1) f) := by
  have hlimit := hunderway.progress.limit
  have hattempts := hunderway.progress.attempts
  have hrounds : config.pipeline.maxAttempts + 1 ≤
      0 + (f.session.maxAttempts - f.session.attempts + 1) := by omega
  obtain ⟨opening, done, hreaches, -⟩ := hunderway.reaches
  obtain ⟨-, hsettled⟩ := FlightWork.settle_settled _ hunderway hrounds
  obtain ⟨repairs, hrepaired, hrepairs⟩ := FlightWork.settle_repairs _ hunderway hrounds
  constructor
  · intro e g hbroken
    rw [hbroken] at hsettled
    cases hsettled with
    | broken hbroken => exact hbroken.open
  · exact ⟨classified, calls, some code, repairs, hconsults.trans hrepaired, hanswered,
      .of_rounds hproduced hcode hplan hattempts hprevious hreaches.assess hrepairs⟩

end Opening

/-- The calls of the model in a run are one for the classification, one for the generation and
those of the chain of repairs. -/
theorem driveAs_asks (entry : Entry) (config : Config) (request : ComponentRequest)
    (w : World σ π) :
    Asks entry config request w
      (FlightWork.driveAs entry config request (Flight.start config request w)) := by
  obtain ⟨classified, hclassify⟩ := plan_calls config request w
  have hprevious := FlightWork.plan_keepsPrevious config (Flight.start config request w)
  have hplans := FlightWork.plan_ends config (f := Flight.start config request w) rfl
  rw [FlightWork.driveAs]
  rcases plan_outcome config request w with ⟨f₁, hplan, hplanned⟩ | ⟨e, f₁, hplan, hbroken⟩
  · rw [hplan] at hclassify hprevious hplans
    have hcode₁ : f₁.session.code = none := by
      cases hplans with
      | planned _ _ _ hcore => exact (congrArg Session.code hcore :)
    obtain ⟨plan, hsome⟩ := hplanned.plan
    have hedge : f₁.session.status.canMoveTo entry.phase = true := by
      rw [hplanned.status]
      exact entry.canMoveTo_phase
    have hmessage : entry.announcement ≠ "Repairing component" := by cases entry <;> decide
    obtain ⟨calls, hgenerate, hanswered⟩ := FlightWork.produce_consults config request.prompt
      hsome hedge entry.phase_isTerminal hmessage
    have hkept := FlightWork.produce_keepsPrevious config request.prompt entry.phase
      entry.announcement f₁
    have hproduces := FlightWork.produce_ends config request.prompt hsome hedge
      entry.phase_isTerminal hmessage
    have hconsults := hclassify.trans hgenerate
    rw [bind_ok _ hplan]
    rcases produce_outcome request.prompt entry.announcement hplanned entry.phase_eq hmessage with
      ⟨generated, f₂, hproduce, hunderway⟩ | ⟨e, f₂, hproduce, hbroken⟩
    · rw [hproduce] at hconsults hanswered hkept hproduces
      rw [bind_ok _ hproduce, FlightWork.get_bind]
      cases hproduces with
      | produced _ _ _ hcore =>
        have hproduced : entry.produced? config request w = some f₂ := by
          simp only [produced?, hplan, hproduce]
        have hplan₂ : f₂.session.plan = f₁.session.plan := (congrArg Session.plan hcore :)
        exact asks_produced hproduced hunderway (congrArg Session.code hcore :)
          (hplan₂.trans hsome) (hkept.trans hprevious) hconsults hanswered
    · rw [hproduce] at hconsults hanswered hproduces
      rw [bind_error _ hproduce]
      cases hproduces with
      | failed _ _ hcore =>
        have hcode₂ : f₂.session.code = f₁.session.code := (congrArg Session.code hcore :)
        exact asks_unproduced hbroken.open hconsults hanswered (hcode₂.trans hcode₁)
  · rw [hplan] at hclassify hplans
    rw [bind_error _ hplan]
    cases hplans with
    | failed _ _ hcore =>
      exact asks_unproduced hbroken.open hclassify .unasked (congrArg Session.code hcore :)

end Entry

/-- The repairs of a run are a chain. The first is asked for the generated component, each later one
for the code that the one before returned; each is told the number of the attempt, the ceiling, the
reasons for which that code was just rejected, and all repairs before, and it goes to the planned
model with the planned budget. A reply with code makes that code the component, a reply without
leaves it and is the last one. The run makes no other calls of the model than the classification,
the generation and these repairs. -/
theorem Entry.run_repairs (entry : Entry) (config : Config) (request : ComponentRequest)
    (w : World σ π) :
    ∃ report w' effects classified calls generated repairs,
      entry.run config request w = some (report, w') ∧ w'.journal = w.journal ++ effects ∧
      effects.filterMap Effect.modelCall? =
        (classificationRequest config request.prompt, classified) :: calls ++
          repairs.map (RepairCall.call config) ∧
      Answered config request.prompt calls generated ∧
      entry.Repairs config request w generated repairs report.session := by
  obtain ⟨f, hrun, hreport⟩ := entry.run_eq config request w
  have hasks := entry.driveAs_asks config request w
  obtain ⟨classified, calls, generated, repairs, hconsults, hanswered, hrepairs⟩ := hasks.repairs
  obtain ⟨hnothing, hkeeps, hcode⟩ := FlightWork.orFail_keeps hrun hasks.opened
  obtain ⟨effects, hjournal, hcalls⟩ := hconsults.then_none hnothing
  exact ⟨_, _, effects, classified, calls, generated, repairs, hreport, hjournal, hcalls,
    hanswered, hrepairs.ended hkeeps hcode⟩

end ArtifactPipeline
