import ArtifactPipeline.Session.Request

/-!
# Arguments

The command line names a command, then its options and one text in any order. An option takes its
value from the same argument or from the next one, which must not look like an option itself. After
`--` every argument is a text. Arguments are read from left to right: the first error or request for
help decides.
-/

namespace ArtifactPipeline.CommandLine

/-- The arguments of the command that generates a component. -/
structure GenerateArguments where
  request : ComponentRequest
  /-- Whether the component is streamed. -/
  stream : Bool
  /-- Whether the demonstration model is used. -/
  mock : Bool
  deriving Repr, DecidableEq

/-- What there is help about. -/
inductive HelpTopic where
  | program
  | generate
  | validate
  | help
  deriving Repr, DecidableEq

/-- What the command line asks for. -/
inductive Command where
  | generate (arguments : GenerateArguments)
  | validate (file tenant : String)
  /-- Tell how the program is used. -/
  | help (topic : HelpTopic)
  deriving Repr, DecidableEq

/-- Why a command line cannot be understood. -/
inductive UsageError where
  | missingCommand
  | unknownCommand (name : String)
  | unknownOption (name : String)
  | missingValue (option : String)
  | unexpectedValue (option : String)
  | invalidValue (option value : String)
  | repeated (option : String)
  | missingText (name : String)
  | unexpectedText (text : String)
  deriving Repr, DecidableEq

namespace UsageError

/-- The wording of an error. -/
def message : UsageError → String
  | missingCommand => "a command is required"
  | unknownCommand name => "unrecognized command '" ++ name ++ "'"
  | unknownOption name => "unexpected argument '" ++ name ++ "'"
  | missingValue option => "a value is required for '" ++ option ++ "'"
  | unexpectedValue option => "'" ++ option ++ "' takes no value"
  | invalidValue option value => "invalid value '" ++ value ++ "' for '" ++ option ++ "'"
  | repeated option => "'" ++ option ++ "' cannot be used more than once"
  | missingText name => "<" ++ name ++ "> is required"
  | unexpectedText text => "unexpected argument '" ++ text ++ "'"

end UsageError

/-- An option of a command. -/
structure OptionSpec where
  name : String
  /-- The letter that may stand for the option. -/
  letter : Option Char := none
  takesValue : Bool := true
  deriving Repr, DecidableEq

/-- What a command accepts. -/
structure CommandSpec where
  options : List OptionSpec
  /-- The name of the text that must be given. -/
  text : String
  /-- Whether the text may be empty. -/
  mayBeEmpty : Bool := true
  deriving Repr, DecidableEq

/-- What has been read of the arguments of a command. -/
structure Reading where
  /-- The options with their values, latest first. -/
  values : List (String × String) := []
  /-- The text that is no option. -/
  text : Option String := none
  /-- Whether help was asked for. -/
  help : Bool := false

/-- Whether an argument looks like an option. A single dash does not. -/
def looksLikeOption (argument : String) : Bool :=
  argument.startsWith "-" && argument != "-"

/-- Whether an argument asks for help. -/
def asksForHelp (argument : String) : Bool :=
  argument == "--help" || argument.startsWith "-h"

/-- The name of a long option and the value in the same argument. -/
def splitValue (cs : List Char) : String × Option String :=
  let name := String.ofList (cs.takeWhile (· != '='))
  match cs.dropWhile (· != '=') with
  | [] => (name, none)
  | _ :: value => (name, some (String.ofList value))

/-- An option in an argument: its description if it is known, and the value in the same argument. A
letter is followed directly by its value, with or without an equals sign. -/
def findOption (specs : List OptionSpec) (argument : List Char) :
    Option OptionSpec × Option String :=
  match argument with
  | '-' :: '-' :: rest =>
    let (name, value) := splitValue rest
    (specs.find? (·.name == name), value)
  | '-' :: letter :: rest =>
    let value := match rest with
      | [] => none
      | '=' :: value => some (String.ofList value)
      | value => some (String.ofList value)
    (specs.find? (·.letter == some letter), value)
  | _ => (none, none)

namespace Reading

/-- Adds an option that must not have occurred before. -/
def add (r : Reading) (spec : OptionSpec) (value : String) : Except UsageError Reading :=
  if (r.values.lookup spec.name).isSome then .error (.repeated spec.name)
  else .ok { r with values := (spec.name, value) :: r.values }

/-- Adds the text, of which there is only one. -/
def addText (spec : CommandSpec) (r : Reading) (text : String) : Except UsageError Reading :=
  if r.text.isSome then .error (.unexpectedText text)
  else if text.isEmpty && !spec.mayBeEmpty then .error (.missingText spec.text)
  else .ok { r with text := some text }

/-- Reads the arguments of a command. -/
def arguments (spec : CommandSpec) : Reading → List String → Except UsageError Reading
  | r, [] => .ok r
  | r, argument :: rest =>
    if argument == "--" then rest.foldlM (addText spec) r
    else if asksForHelp argument then .ok { r with help := true }
    else if !looksLikeOption argument then
      match r.addText spec argument with
      | .ok r => arguments spec r rest
      | .error e => .error e
    else
      match findOption spec.options argument.toList with
      | (none, _) => .error (.unknownOption argument)
      | (some option, value) =>
        if !option.takesValue then
          if value.isSome then .error (.unexpectedValue option.name)
          else
            match r.add option "" with
            | .ok r => arguments spec r rest
            | .error e => .error e
        else
          match value, rest with
          | some value, rest =>
            match r.add option value with
            | .ok r => arguments spec r rest
            | .error e => .error e
          | none, value :: rest =>
            if looksLikeOption value then .error (.missingValue option.name)
            else
              match r.add option value with
              | .ok r => arguments spec r rest
              | .error e => .error e
          | none, [] => .error (.missingValue option.name)

/-- The value of an option. -/
def value (r : Reading) (name default : String) : String :=
  (r.values.lookup name).getD default

/-- Whether an option without a value was given. -/
def has (r : Reading) (name : String) : Bool := (r.values.lookup name).isSome

/-- The text that must be given. -/
def requiredText (spec : CommandSpec) (r : Reading) : Except UsageError String :=
  match r.text with
  | some text => .ok text
  | none => .error (.missingText spec.text)

end Reading

/-- The arguments of the command that generates a component. -/
def generateSpec : CommandSpec where
  options := [
    { name := "tenant", letter := some 't' },
    { name := "user", letter := some 'u' },
    { name := "mood" },
    { name := "stream", takesValue := false },
    { name := "mock", takesValue := false }]
  text := "PROMPT"

/-- The arguments of the command that validates a component. -/
def validateSpec : CommandSpec where
  options := [{ name := "tenant", letter := some 't' }]
  text := "FILE"
  mayBeEmpty := false

/-- Reads the arguments of the command that generates a component. -/
def readGenerate (arguments : List String) : Except UsageError Command := do
  let r ← Reading.arguments generateSpec {} arguments
  let label := r.value "mood" "balanced"
  let mood ← (Mood.ofLabel label).mapError fun _ => UsageError.invalidValue "mood" label
  if r.help then return .help .generate
  let prompt ← r.requiredText generateSpec
  return .generate {
    request := { tenant := r.value "tenant" "default", user := r.value "user" "cli", prompt, mood }
    stream := r.has "stream"
    mock := r.has "mock" }

/-- Reads the arguments of the command that validates a component. -/
def readValidate (arguments : List String) : Except UsageError Command := do
  let r ← Reading.arguments validateSpec {} arguments
  if r.help then return .help .validate
  return .validate (← r.requiredText validateSpec) (r.value "tenant" "default")

/-- Reads what help is asked for. -/
def readHelp : List String → Except UsageError Command
  | [] => .ok (.help .program)
  | ["generate"] => .ok (.help .generate)
  | ["validate"] => .ok (.help .validate)
  | ["help"] => .ok (.help .help)
  | name :: rest => .error (.unknownCommand (rest.headD name))

/-- Reads a command line. -/
def Command.ofArguments : List String → Except UsageError Command
  | [] => .error .missingCommand
  | "generate" :: rest => readGenerate rest
  | "validate" :: rest => readValidate rest
  | "help" :: rest => readHelp rest
  | name :: _ =>
    if asksForHelp name then .ok (.help .program) else .error (.unknownCommand name)

/-- The text of the help about a topic. -/
def HelpTopic.text : HelpTopic → String
  | program =>
    "Generate policy-compliant UI components\n\n" ++
    "Usage: forge <COMMAND>\n\n" ++
    "Commands:\n" ++
    "  generate  Generate a component from a description\n" ++
    "  validate  Validate an existing component file against the default policy\n" ++
    "  help      Print this message or the help of the given subcommand(s)\n\n" ++
    "Options:\n" ++
    "  -h, --help  Print help\n"
  | generate =>
    "Generate a component from a description\n\n" ++
    "Usage: forge generate [OPTIONS] <PROMPT>\n\n" ++
    "Arguments:\n" ++
    "  <PROMPT>  What the component should do\n\n" ++
    "Options:\n" ++
    "  -t, --tenant <TENANT>  Tenant whose rules apply [default: default]\n" ++
    "  -u, --user <USER>      User issuing the request [default: cli]\n" ++
    "      --mood <MOOD>      balanced, focused or exploratory [default: balanced]\n" ++
    "      --stream           " ++
    "Run the streaming pipeline and trace code chunks as they arrive\n" ++
    "      --mock             Use a scripted offline model instead of OpenRouter\n" ++
    "  -h, --help             Print help\n"
  | validate =>
    "Validate an existing component file against the default policy\n\n" ++
    "Usage: forge validate [OPTIONS] <FILE>\n\n" ++
    "Arguments:\n" ++
    "  <FILE>  Component source file\n\n" ++
    "Options:\n" ++
    "  -t, --tenant <TENANT>  Tenant whose rules apply [default: default]\n" ++
    "  -h, --help             Print help\n"
  | help =>
    "Print this message or the help of the given subcommand(s)\n\n" ++
    "Usage: forge help [COMMAND]...\n\n" ++
    "Arguments:\n" ++
    "  [COMMAND]...  Print help for the subcommand(s)\n"

end ArtifactPipeline.CommandLine
