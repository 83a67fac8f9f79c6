import ArtifactPipeline.CommandLine.Arguments
import ArtifactPipeline.CommandLine.Demo
import ArtifactPipeline.Config.File
import ArtifactPipeline.Decimal.Fixed
import ArtifactPipeline.Model.Hosted
import ArtifactPipeline.Run.Blocking
import ArtifactPipeline.Run.Streaming
import ArtifactPipeline.Text.Hex

/-!
# Commands

What the commands do, as a function of the files, the environment, the clock and the supply of
identifiers. A command prints the component that was accepted, traces its progress and ends with an
error if there is no acceptable component.
-/

namespace ArtifactPipeline.CommandLine

open Text Time

/-- How important a trace message is. -/
inductive TraceLevel where
  | debug
  | info
  | warn
  deriving Repr, DecidableEq

namespace TraceLevel

/-- The name of a level. -/
def label : TraceLevel → String
  | debug => "DEBUG"
  | info => "INFO"
  | warn => "WARN"

end TraceLevel

/-- A message about the progress of a command. -/
structure Trace where
  level : TraceLevel
  message : String
  deriving Repr, DecidableEq

/-- How a character of a message is shown. One that a terminal might obey becomes an escape. -/
def showChar (c : Char) : List Char :=
  if c == '\x1b' || c == '\x07' || c == '\x08' || c == '\x0c' || c == '\x7f' then
    ['\\', 'x'] ++ hexDigits 2 c.toNat
  else if 0x80 ≤ c.toNat && c.toNat ≤ 0x9F then
    ['\\', 'u', '\x7b'] ++ hexDigits 2 c.toNat ++ ['\x7d']
  else [c]

/-- The message as it is shown. -/
def Trace.shown (t : Trace) : String := String.ofList (t.message.toList.flatMap showChar)

/-- What a command depends on. -/
structure Environment where
  /-- The text of the file of settings, if it exists. -/
  settings : Except Failure (Option String)
  /-- The key of the hosted models in the environment. -/
  key : Option String
  network : Network
  /-- The text of a file, or why it cannot be read. -/
  fileText : String → Except String String
  clock : Nat → Instant
  ids : Nat → SessionId
  /-- The names of published artifacts, in order. -/
  artifactNames : Nat → String

/-- What a command does. -/
structure Outcome where
  /-- What is printed. -/
  output : String := ""
  trace : List Trace := []
  /-- Why the command fails. -/
  error : Option String := none
  deriving Repr

namespace Outcome

/-- The exit code of the program. -/
def exitCode (o : Outcome) : Nat := if o.error.isSome then 1 else 0

/-- The outcome with messages in front. -/
def after (trace : List Trace) (o : Outcome) : Outcome := { o with trace := trace ++ o.trace }

end Outcome

/-- A message about progress. -/
def info (message : String) : Trace := ⟨.info, message⟩

/-- A message about a problem. -/
def warning (message : String) : Trace := ⟨.warn, message⟩

/-- Loads the settings. Settings that cannot be read are replaced by the defaults. The result has
the text that has to be written if there is no file of settings. -/
def loadSettings (settings : Except Failure (Option String)) :
    Config × Option String × List Trace :=
  match settings.bind Config.loadOrCreate with
  | .ok (config, text) => (config, text, [])
  | .error e =>
    ({}, none, [warning ("Failed to load config from ~/.forge/config.toml: " ++ e.message),
      warning "Using default configuration"])

/-- The world of a command: a store with the standard rules, and an empty publisher. -/
def newWorld {σ : Type} (env : Environment) (config : Config) (model : σ) :
    World σ MemoryPublisher where
  store := .withPolicy config.validation.maxLines
  faults _ _ := false
  model
  publisher := { names := env.artifactNames }
  regexes := { limit := config.validation.regexLimit }
  journal := []
  clock := env.clock
  readings := 0
  ids := env.ids
  begun := 0

/-- The trace of a log entry. -/
def traceEntry (entry : LogEntry) : Trace :=
  info ("[" ++ entry.phase.label ++ "] " ++ entry.message)

/-- The trace of an update. -/
def traceUpdate : Update → List Trace
  | .log entry => [traceEntry entry]
  | .chunk c => [⟨.debug, "chunk " ++ toString c.index ++ " (~" ++ toString c.tokensSoFar ++
      " tokens): " ++ c.content⟩]
  | .finished _ => []

/-- The session with which a stream has ended. -/
def finishedSession? (updates : List Update) : Option Session :=
  updates.findSome? fun
    | .finished session => some session
    | _ => none

/-- The trace of the issues of a verdict. -/
def traceIssues (verdict : Verdict) : List Trace :=
  verdict.errors.map (fun i => warning ("error " ++ i.toText)) ++
    verdict.warnings.map (fun i => warning ("warning " ++ i.toText))

/-- The trace of a session at its end. -/
def traceSummary (s : Session) : List Trace :=
  info ("Session " ++ s.id.toText ++ " " ++ s.status.label ++ " after " ++ toString s.attempts ++
    " repair attempt(s), " ++ toString s.usage.total ++ " tokens, $" ++
    Decimal.fixed 4 s.cost) ::
  (s.artifactId.toList.map fun name => info ("Published as " ++ name)) ++
  (s.verdict.map traceIssues).getD []

/-- What is printed of a session at its end: the accepted component and nothing else. -/
def emit (s : Session) : Outcome :=
  match s.status with
  | .completed => { output := (s.code.map (· ++ "\n")).getD "" }
  | .failed => { error := some ("Generation failed: " ++ s.error.getD "unknown error") }
  | status =>
    { trace := [warning ("Withholding the " ++ status.label ++
        " component, it does not pass validation")]
      error := some ("Session ended " ++ status.label) }

/-- The outcome of a session that has ended, after its log. -/
def conclude (log : List Trace) (s : Session) : Outcome :=
  (emit s).after (log ++ traceSummary s)

/-- Generates a component in some world. -/
def generateIn {σ : Type} [ModelService σ] (config : Config) (arguments : GenerateArguments)
    (w : World σ MemoryPublisher) : Outcome :=
  let request := arguments.request
  if arguments.stream then
    let updates := ({ config, request : UpdateStream }.toEnd w).1
    let trace := updates.flatMap traceUpdate
    match finishedSession? updates with
    | some session => conclude trace session
    | none => { trace, error := some "Stream ended without a final session" }
  else
    match (execute config request).outcome w with
    | (.ok report, _) => conclude (report.logs.map traceEntry) report.session
    | (.error e, _) => { error := some e.message }

/-- Generates a component. -/
def runGenerate (env : Environment) (config : Config) (arguments : GenerateArguments) : Outcome :=
  if arguments.mock then
    (generateIn config arguments (newWorld env config Demo.model)).after
      [info "Using the scripted offline model"]
  else
    match HostedModel.ofConfig config env.key env.network with
    | .ok model => generateIn config arguments (newWorld env config model)
    | .error e => { error := some e.message }

/-- Validates a source text under the standard rules. -/
def validateSource (env : Environment) (config : Config) (code tenant : String) :
    Except Failure Verdict :=
  ((validate code none tenant).outcome (newWorld env config Demo.model)).1

/-- Validates a file. -/
def runValidate (env : Environment) (config : Config) (file tenant : String) : Outcome :=
  match env.fileText file with
  | .error reason => { error := some reason }
  | .ok code =>
    match validateSource env config code tenant with
    | .error e => { error := some e.message }
    | .ok verdict =>
      let summary := info (file ++ ": " ++ toString verdict.passed.length ++ " passed, " ++
        toString verdict.failed.length ++ " failed, score " ++ Decimal.fixed 2 verdict.score)
      { trace := traceIssues verdict ++ [summary]
        error :=
          if verdict.isValid then none
          else some (toString verdict.errors.length ++ " blocking issue(s) found") }

/-- Runs a command. The result has the settings that have to be written. -/
def run (env : Environment) (command : Command) : Option String × Outcome :=
  match command with
  | .help topic => (none, { output := topic.text })
  | .generate arguments =>
    let (config, text, trace) := loadSettings env.settings
    (text, (runGenerate env config arguments).after trace)
  | .validate file tenant =>
    let (config, text, trace) := loadSettings env.settings
    (text, (runValidate env config file tenant).after trace)

end ArtifactPipeline.CommandLine
