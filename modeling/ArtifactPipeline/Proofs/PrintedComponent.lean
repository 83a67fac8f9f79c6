import ArtifactPipeline.CommandLine.Command
import ArtifactPipeline.Proofs.Completion
import ArtifactPipeline.Proofs.Endings
import ArtifactPipeline.Proofs.FencedBlock
import ArtifactPipeline.Proofs.FinalNewline
import ArtifactPipeline.Proofs.HtmlAssignments
import ArtifactPipeline.Proofs.TenantIsolation

/-!
# What is printed of an accepted component

A component that was accepted is printed with a newline behind it. If that text is validated in turn
it gets the very verdict with which the component was accepted, unless the component has as many
lines as are allowed and the newline begins another one.
-/

namespace ArtifactPipeline

open Text Policy StandardPolicy CommandLine

/-! ## The verdict on the printed text -/

/-- A newline behind the text begins a line of its own: the text is empty or ends with a newline. -/
def Text.EndsLine (text : List Char) : Prop := text.getLast?.all (· == '\n') = true

/-- Whether a newline would begin a line of its own can be seen at the end of the text. -/
instance : DecidablePred EndsLine := fun text =>
  inferInstanceAs (Decidable (text.getLast?.all (· == '\n') = true))

/-- A newline behind a text makes one line more only if it begins that line. -/
theorem Text.lineCount_newline (text : List Char) :
    lineCount (text ++ ['\n']) = lineCount text + if EndsLine text then 1 else 0 := by
  unfold lineCount EndsLine
  by_cases h : text.getLast?.all (· == '\n') = true <;> simp [h]

/-- A component that has as many lines as are allowed, and one more with a newline behind it. -/
structure Brims (maxLines : Nat) (code : String) : Prop where
  lines : lineCount code.toList = maxLines
  ends : EndsLine code.toList

/-- Whether a component brims can be told by counting its lines. -/
instance (maxLines : Nat) : DecidablePred (Brims maxLines) := fun code =>
  decidable_of_iff (lineCount code.toList = maxLines ∧ EndsLine code.toList)
    ⟨fun h => ⟨h.1, h.2⟩, fun h => ⟨h.lines, h.ends⟩⟩

/-- The limit on lines among the standard rules. -/
def lineLimit (maxLines : Nat) : Rule where
  name := "max_lines"
  kind := .resourceLimit .lineCount maxLines
  severity := .block

/-- The issue of a component with too many lines. -/
def tooManyLines (lines maxLines : Nat) : Issue where
  rule := "max_lines"
  severity := .block
  message := "Code has " ++ toString lines ++ " lines (max " ++ toString maxLines ++ ")"
  line := none
  column := none

/-- How the verdict on what is printed of an accepted component is related to the verdict on the
component itself. -/
structure Verdict.OfPrinted (maxLines : Nat) (code : String) (printed accepted : Verdict) :
    Prop where
  isValid : printed.isValid = true ↔ ¬ Brims maxLines code
  same : ¬ Brims maxLines code → printed = accepted
  errors : Brims maxLines code → printed.errors = [tooManyLines (maxLines + 1) maxLines]

section Verdicts

variable {limit maxLines : Nat} {code : String} {allowlist : List String} {text : List Char}

/-- The newline is the last character of what is printed. -/
theorem toList_newline (code : String) : (code ++ "\n").toList = code.toList ++ ['\n'] := by
  rw [String.toList_append]
  exact congrArg _ rfl

/-- The standard verdict, with the finding on the number of lines in front. -/
theorem verdict_defaultRules (limit maxLines : Nat) (code : String) (allowlist : List String) :
    verdict limit code (defaultRules maxLines) allowlist = .ofFindings
      ((lineLimit maxLines, checkLimit code.toList .lineCount maxLines) ::
        (defaultRules 0).tail.map fun rule =>
          (rule, violation? limit code.toList allowlist rule)) := by
  rw [verdict_eq, defaultRules_eq maxLines, List.map_cons]
  simp only [violation?, lineLimit]

/-- Apart from the limit on lines, the same is found with a newline behind the component. -/
theorem verdict_newline (limit maxLines : Nat) (code : String) (allowlist : List String) :
    verdict limit (code ++ "\n") (defaultRules maxLines) allowlist = .ofFindings
      ((lineLimit maxLines, checkLimit (code.toList ++ ['\n']) .lineCount maxLines) ::
        (defaultRules 0).tail.map fun rule =>
          (rule, violation? limit code.toList allowlist rule)) := by
  rw [verdict_defaultRules, toList_newline]
  refine congrArg (Verdict.ofFindings <| (_, _) :: ·) (List.map_congr_left fun rule hrule => ?_)
  rw [violation?_newline hrule]

/-- There is nothing to say about the lines if there are no more than allowed. -/
theorem checkLimit_of_le (h : lineCount text ≤ maxLines) :
    checkLimit text .lineCount maxLines = none :=
  if_neg (Nat.not_lt.mpr h)

/-- A text that is too long is reported, and whatever else is found comes after that. -/
theorem errors_of_lt (rest : List Finding) (h : maxLines < lineCount text) :
    (Verdict.ofFindings
        ((lineLimit maxLines, checkLimit text .lineCount maxLines) :: rest)).errors =
      tooManyLines (lineCount text) maxLines :: (Verdict.ofFindings rest).errors := by
  have hfound : checkLimit text .lineCount maxLines =
      some { message := (tooManyLines (lineCount text) maxLines).message } := by
    simp [checkLimit, Metric.measure, Metric.unit, tooManyLines, String.append_assoc, h]
  rw [hfound, ← List.singleton_append, (Verdict.ofFindings_append _ _).errors]
  rfl

/-- A verdict is favourable if no finding is an error. -/
theorem Verdict.isValid_iff (findings : List Finding) :
    (ofFindings findings).isValid = true ↔ (ofFindings findings).errors = [] :=
  List.isEmpty_iff

/-- A component that the standard rules accept has no more lines than allowed. -/
theorem lineCount_le_of_isValid
    (hvalid : (verdict limit code (defaultRules maxLines) allowlist).isValid = true) :
    lineCount code.toList ≤ maxLines := by
  by_contra hover
  rw [verdict_defaultRules, Verdict.isValid_iff, errors_of_lt _ (Nat.not_le.mp hover)] at hvalid
  cases hvalid

/-- A component that was accepted gets the same verdict with a newline behind it if there is room
for another line, and else is refused for the number of its lines alone. -/
theorem verdict_printed
    (hvalid : (verdict limit code (defaultRules maxLines) allowlist).isValid = true) :
    (verdict limit (code ++ "\n") (defaultRules maxLines) allowlist).OfPrinted maxLines code
      (verdict limit code (defaultRules maxLines) allowlist) := by
  have hfits := lineCount_le_of_isValid hvalid
  have haccepted : verdict limit code (defaultRules maxLines) allowlist = .ofFindings
      ((lineLimit maxLines, none) :: (defaultRules 0).tail.map fun rule =>
        (rule, violation? limit code.toList allowlist rule)) := by
    rw [verdict_defaultRules, checkLimit_of_le hfits]
  rw [verdict_newline, haccepted]
  rw [haccepted] at hvalid
  generalize (defaultRules 0).tail.map _ = rest at hvalid ⊢
  have hlines := lineCount_newline code.toList
  by_cases hbrims : Brims maxLines code
  · rw [if_pos hbrims.ends, hbrims.lines] at hlines
    have hrest : (Verdict.ofFindings rest).errors = [] :=
      (Verdict.isValid_iff rest).mp ((Verdict.ofFindings_append [_] rest).isValid.mp hvalid).2
    have hover : maxLines < lineCount (code.toList ++ ['\n']) := by omega
    have herrors := errors_of_lt rest hover
    rw [hlines, hrest] at herrors
    refine ⟨?_, fun h => absurd hbrims h, fun _ => herrors⟩
    rw [Verdict.isValid_iff, herrors]
    simp [hbrims]
  · have hroom : lineCount (code.toList ++ ['\n']) ≤ maxLines := by
      rw [hlines]
      split
      · next hends => exact Nat.lt_of_le_of_ne hfits fun hfull => hbrims ⟨hfull, hends⟩
      · exact hfits
    rw [checkLimit_of_le hroom]
    exact ⟨iff_of_true hvalid hbrims, fun _ => rfl, fun h => absurd h hbrims⟩

end Verdicts

/-! ## The commands -/

variable {σ : Type}

/-- The verdict on a component under the standard rules and allowed packages, with the limits of the
settings. -/
abbrev Config.verdict (config : Config) (code : String) : Verdict :=
  Policy.verdict config.validation.regexLimit code (defaultRules config.validation.maxLines)
    defaultAllowlist

/-- The standard rules are in force for everyone. -/
theorem appliesTo_defaultRules (maxLines : Nat) (tenant : String) :
    ∀ rule ∈ defaultRules maxLines, rule.appliesTo tenant = true := by
  have hforAll : ∀ rule ∈ (defaultRules 0).tail, rule.enabled = true ∧ rule.tenant = none := by
    decide
  intro rule hrule
  rw [defaultRules_eq] at hrule
  rcases List.mem_cons.mp hrule with rfl | hrule
  · rfl
  · obtain ⟨henabled, hscope⟩ := hforAll rule hrule
    rw [Rule.appliesTo, henabled, hscope]
    rfl

/-- In the world of a command a component is judged by the standard rules, whoever it is for. -/
theorem assess_newWorld (env : Environment) (config : Config) (model : σ) (tenant code : String) :
    (newWorld env config model).assess tenant code = config.verdict code := by
  have hrules : (defaultRules config.validation.maxLines).filter (·.appliesTo tenant) =
      defaultRules config.validation.maxLines :=
    List.filter_eq_self.mpr (appliesTo_defaultRules _ tenant)
  have hallowlist :
      (newWorld env config model).store.resolvedAllowlist tenant = defaultAllowlist := by
    have hdistinct : defaultAllowlist.eraseDups = defaultAllowlist := by decide
    exact hdistinct
  rw [World.assess, hallowlist, Config.verdict, Policy.verdict]
  exact congrArg (fun rules => (evaluate code rules defaultAllowlist _).1) hrules

/-- The command that validates a file gives the verdict under the standard rules and the allowed
packages of the settings. -/
theorem validateSource_eq (env : Environment) (config : Config) (code tenant : String) :
    validateSource env config code tenant = .ok (config.verdict code) := by
  rw [validateSource, Work.outcome_validate, assess_newWorld]
  rfl

/-! ### What is generated -/

section Generation

variable [ModelService σ] {config : Config} {request : ComponentRequest}

/-- How the command runs the request. -/
def CommandLine.GenerateArguments.entry (arguments : GenerateArguments) : Entry :=
  if arguments.stream then .streaming else .blocking

/-- The session that a stream finished with is the first one among its updates. -/
theorem finishedSession?_eq (updates : List Update) :
    finishedSession? updates = updates.findSome? Update.session? := rfl

/-- A stream hands out no session but the one with which it ends. -/
theorem Streamed.finishedSession? {w : World σ MemoryPublisher} {updates : List Update}
    {f : Flight σ MemoryPublisher} (h : Streamed config request w updates f) :
    CommandLine.finishedSession? updates = some f.session := by
  have hlogs (entries : List LogEntry) :
      (entries.map Update.log).findSome? Update.session? = none := by
    simp [List.findSome?_eq_none_iff, Update.session?]
  have hchunks (chunks : List Chunk) :
      (chunks.map Update.chunk).findSome? Update.session? = none := by
    simp [List.findSome?_eq_none_iff, Update.session?]
  cases h with
  | unplanned | unproduced | produced =>
    simp [finishedSession?_eq, Update.closing, List.findSome?_append, hlogs, hchunks,
      Update.session?]

/-- The command prints what the session at the end of its run calls for. -/
theorem generateIn_eq (config : Config) (arguments : GenerateArguments)
    (w : World σ MemoryPublisher) : ∃ report w' trace,
      arguments.entry.run config arguments.request w = some (report, w') ∧
      generateIn config arguments w = (emit report.session).after trace := by
  cases hstream : arguments.stream with
  | false =>
    obtain ⟨f, -, hrun⟩ := Entry.blocking.run_eq config arguments.request w
    have hentry : arguments.entry = .blocking := by rw [GenerateArguments.entry, hstream]; rfl
    refine ⟨_, _, f.run.history.map traceEntry ++ traceSummary f.session, by rw [hentry, hrun], ?_⟩
    simp only [generateIn, hstream, Work.outcome, Entry.execute_of_run hrun]
    rfl
  | true =>
    obtain ⟨updates, f, htoEnd, -, hrunAs, hstreamed⟩ :=
      UpdateStream.toEnd_streamed config arguments.request w
    obtain ⟨f', hrunAs', hrun⟩ := Entry.streaming.run_eq config arguments.request w
    cases hrunAs.symm.trans hrunAs'
    have hentry : arguments.entry = .streaming := by rw [GenerateArguments.entry, hstream]; rfl
    refine ⟨_, _, updates.flatMap traceUpdate ++ traceSummary f.session, by rw [hentry, hrun], ?_⟩
    simp only [generateIn, hstream, htoEnd, hstreamed.finishedSession?]
    rfl

/-- The component of a session that completed is accepted by the standard rules, and is printed with
a newline behind it. -/
theorem completed_prints {env : Environment} {entry : Entry} {model : σ} {report : SessionReport}
    {w' : World σ MemoryPublisher}
    (hrun : entry.run config request (newWorld env config model) = some (report, w'))
    (hstatus : report.session.status = .completed) :
    ∃ code, report.session.code = some code ∧ (emit report.session).output = code ++ "\n" ∧
      report.session.verdict = some (config.verdict code) ∧
      (config.verdict code).isValid = true := by
  obtain ⟨report', w'', effects, hrun', -, -, hcourse⟩ :=
    entry.run_course config request (newWorld env config model)
  cases hrun.symm.trans hrun'
  obtain ⟨code, _, hjudged, hiff⟩ := hcourse.judged (Or.inl hstatus)
  have hverdict := hjudged.verdict
  have hvalid := hiff.mp hstatus
  rw [assess_newWorld] at hverdict hvalid
  refine ⟨code, hjudged.code, ?_, hverdict, hvalid⟩
  rw [emit, hstatus, hjudged.code]
  rfl

end Generation

/-! ### A component that ends with a blank line -/

namespace BlankLine

open Imports Regex

/-- The reply of a model whose component ends with a blank line. -/
def reply : String := "```tsx\nexport default () => null;\n\n```"

/-- The component of the reply. -/
def code : String := "export default () => null;\n"

/-- A model that gives the reply to every request. -/
def model : ScriptedModel := { default := some reply }

/-- The component is what stands in the fence of the reply. -/
theorem extractCode_reply : String.ofList (Component.extractCode reply.toList) = code := by
  have hreply : reply.toList = [] ++ (Component.backticks ++ ("tsx".toList ++ '\n' ::
      (code.toList ++ '\n' :: (Component.backticks ++ [])))) := by decide
  have hprose : ∀ front back : List Char, [] = front ++ back →
      Component.afterOpener? back = none := by
    intro front back h
    rw [(List.append_eq_nil_iff.mp h.symm).2]
    decide
  rw [hreply, Component.extractCode_of_block hprose (by decide) (by decide), String.ofList_toList]

/-- The model replies with the component, whatever it is asked. -/
theorem supplies : ModelService.Supplies
    (fun m : ScriptedModel => m.scripts = [] ∧ m.default = some reply) code := by
  rintro ⟨_, _, history⟩ request ⟨rfl, rfl⟩
  exact ⟨_, _, rfl, ⟨rfl, rfl⟩, extractCode_reply⟩

/-- The component has one line, so it passes under any limit of at least one line. -/
theorem accepted {maxLines : Nat} (h : 1 ≤ maxLines) :
    (verdict ({} : Config).validation.regexLimit code (defaultRules maxLines)
      defaultAllowlist).isValid = true := by
  have hplain : ∀ c ∈ code.toList, ¬ IsQuote c := forall_mem_of_all (by decide)
  have hhtml : ¬ InjectsHtml code.toList := not_injectsHtml_of_not_mem (by decide)
  have hmissing : ∀ x ∈ expressions, x.2 = htmlInjection ∨ ∀ parts ∈ x.2.alternatives,
      ∃ part ∈ parts, MissingFrom code.toList part := by decide +kernel
  have hlines : lineCount code.toList ≤ maxLines := h
  rw [← String.ofList_toList (s := code)]
  exact (accepted_of_missing RegexCache.standard_fresh hlines hplain hhtml hmissing).1

/-- The component is accepted if one line is allowed. -/
theorem run_completes (env : Environment) (config : Config) (request : ComponentRequest)
    (entry : Entry) (hlimit : config.validation.regexLimit = ({} : Config).validation.regexLimit)
    (hlines : 1 ≤ config.validation.maxLines) :
    ∃ report w', entry.run config request (newWorld env config model) = some (report, w') ∧
      report.session.status = .completed ∧ report.session.code = some code := by
  refine entry.run_completes config request supplies ⟨fun _ _ _ => rfl, rfl, rfl, rfl⟩ ?_
  rw [assess_newWorld, Config.verdict, hlimit]
  exact accepted hlines

/-- An environment without files and without a network. -/
def environment : Environment where
  settings := .ok none
  key := none
  network := .unreachable
  fileText _ := .error "no such file"
  clock reading := ⟨reading, 0⟩
  ids number := ⟨number⟩
  artifactNames _ := "artifact"

/-- A command that generates in one piece. -/
def arguments : GenerateArguments where
  request := { tenant := "acme", user := "ann", prompt := "A button" }
  stream := false
  mock := false

end BlankLine

/-! ### What is printed -/

/-- Whatever the settings, the request and the model are: if the session of a command completes, the
command prints the component that was accepted and a newline behind it. A later validation of what
was printed comes to a verdict, and that is the one with which the component was accepted, unless
the component brims with lines: then the printed text has a line too many, and is refused for that
alone. -/
theorem printed_validates_iff [ModelService σ] (env env' : Environment) (config : Config)
    (arguments : GenerateArguments) (model : σ) :
    ∃ report w' trace,
      arguments.entry.run config arguments.request (newWorld env config model) =
        some (report, w') ∧
      generateIn config arguments (newWorld env config model) =
        (emit report.session).after trace ∧
      (report.session.status = .completed → ∃ code accepted printed,
        report.session.code = some code ∧ report.session.verdict = some accepted ∧
        (emit report.session).output = code ++ "\n" ∧
        validateSource env' config (emit report.session).output arguments.request.tenant =
          .ok printed ∧
        Verdict.OfPrinted config.validation.maxLines code printed accepted) := by
  obtain ⟨report, w', trace, hrun, hgenerate⟩ :=
    generateIn_eq config arguments (newWorld env config model)
  refine ⟨report, w', trace, hrun, hgenerate, fun hstatus => ?_⟩
  obtain ⟨code, hcode, hprints, haccepted, hvalid⟩ := completed_prints hrun hstatus
  refine ⟨code, _, _, hcode, haccepted, hprints, ?_, verdict_printed hvalid⟩
  rw [hprints, validateSource_eq]

namespace BlankLine

/-- If two lines are allowed, the printed text is accepted as the component was. -/
theorem printed_validates_below :
    let config : Config := { validation := { maxLines := 2 } }
    ¬ Brims 2 code ∧ ∃ report w' accepted,
      arguments.entry.run config arguments.request (newWorld environment config model) =
        some (report, w') ∧
      report.session.status = .completed ∧ report.session.verdict = some accepted ∧
      (generateIn config arguments (newWorld environment config model)).output = code ++ "\n" ∧
      validateSource environment config (code ++ "\n") "acme" = .ok accepted := by
  intro config
  have hbrims : ¬ Brims 2 code := by decide
  obtain ⟨report, w', hrun, hstatus, hcode⟩ := run_completes environment
    config arguments.request arguments.entry rfl (by decide)
  obtain ⟨report', w'', trace, hrun', hgenerate, hprinted⟩ :=
    printed_validates_iff environment environment config arguments model
  cases hrun.symm.trans hrun'
  obtain ⟨code', accepted, printed, hcode', haccepted, hprints, hvalidate, hof⟩ := hprinted hstatus
  cases hcode.symm.trans hcode'
  refine ⟨hbrims, _, _, accepted, hrun, hstatus, haccepted, ?_, ?_⟩
  · rw [hgenerate]
    exact hprints
  · rw [← hof.same hbrims, ← hprints]
    exact hvalidate

/-- If one line is allowed, the component is accepted and printed, and what was printed is
refused. -/
theorem printed_refused :
    let config : Config := { validation := { maxLines := 1 } }
    let outcome := generateIn config arguments (newWorld environment config model)
    (∃ report w', arguments.entry.run config arguments.request
        (newWorld environment config model) = some (report, w') ∧
      report.session.status = .completed ∧ report.session.code = some code ∧
      outcome.output = (emit report.session).output) ∧
    outcome.error = none ∧ outcome.output = code ++ "\n" ∧
    ∃ verdict, validateSource environment config outcome.output arguments.request.tenant =
      .ok verdict ∧ verdict.isValid = false ∧ verdict.errors = [tooManyLines 2 1] := by
  intro config outcome
  obtain ⟨report, w', hrun, hstatus, hcode⟩ :=
    run_completes environment config arguments.request arguments.entry rfl le_rfl
  obtain ⟨report', w'', trace, hrun', hgenerate⟩ :=
    generateIn_eq config arguments (newWorld environment config model)
  cases hrun.symm.trans hrun'
  obtain ⟨code', hcode', hprints, -, hvalid⟩ := completed_prints hrun hstatus
  cases hcode.symm.trans hcode'
  have hprinted := verdict_printed hvalid
  have hbrims : Brims 1 code := ⟨by decide, by decide⟩
  have houtput : outcome.output = code ++ "\n" := (congrArg Outcome.output hgenerate).trans hprints
  refine ⟨⟨_, _, hrun, hstatus, hcode, houtput.trans hprints.symm⟩, ?_, houtput, _, ?_,
    Bool.eq_false_of_not_eq_true fun h => hprinted.isValid.mp h hbrims, hprinted.errors hbrims⟩
  · have herror : outcome.error = (emit report.session).error :=
      (congrArg Outcome.error hgenerate).trans rfl
    rw [herror, emit, hstatus]
  · rw [houtput, validateSource_eq]

end BlankLine

end ArtifactPipeline
