import ArtifactPipeline.CommandLine.Command

/-!
# The program

Reads the arguments, the environment and the files, runs the command and prints its outcome.
-/

namespace ArtifactPipeline.CommandLine

/-- The text of an error of the system. -/
def systemError : IO.Error → String
  | .noFileOrDirectory _ code _ => "No such file or directory (os error " ++ toString code ++ ")"
  | e => toString e

/-- Reads the file of settings, if it exists. -/
def readSettings (home : String) : IO (Except Failure (Option String)) := do
  try
    let bytes ← IO.FS.readBinFile (Config.path home)
    match String.fromUTF8? bytes with
    | some text => return .ok (some text)
    | none => return .error (.io "stream did not contain valid UTF-8")
  catch
    | .noFileOrDirectory _ _ _ => return .ok none
    | e => return .error (.io (systemError e))

/-- Writes the file of settings. -/
def writeSettings (home text : String) : IO Unit := do
  IO.FS.createDirAll (Config.directory home)
  IO.FS.writeFile (Config.path home) text

/-- Reads the file that a command needs. -/
def readInput : Command → IO (Except String String)
  | .validate file _ => do
    try return .ok (← IO.FS.readFile file)
    catch e => return .error (systemError e)
  | _ => return .ok ""

/-- A random number of 128 bits. -/
def randomBits : IO Nat := do
  return (← IO.getRandomBytes 16).foldl (fun n b => n * 256 + b.toNat) 0

/-- Runs a command. No time is ever printed, so the clock need only go forward. There is no client
for the network here, so hosted models cannot be reached. -/
def runIO (command : Command) (verbose : Bool) : IO UInt32 := do
  let home := (← IO.getEnv "HOME").getD ""
  let input ← readInput command
  let start ← IO.monoNanosNow
  let session ← randomBits
  let artifact ← randomBits
  let env : Environment := {
    settings := ← readSettings home
    key := ← IO.getEnv Config.keyVariable
    network := .unreachable
    fileText := fun _ => input
    clock := fun n => ⟨(start + n) / Time.Instant.giga, (start + n) % Time.Instant.giga⟩
    ids := fun n => SessionId.ofRandom (session + n)
    artifactNames := fun n => "artifact-" ++ (SessionId.ofRandom (artifact + n)).toText }
  let (settings, outcome) := run env command
  if let some text := settings then writeSettings home text
  for t in outcome.trace do
    if verbose || t.level != .debug then IO.eprintln (t.level.label ++ " " ++ t.shown)
  IO.print outcome.output
  if let some e := outcome.error then IO.eprintln ("Error: " ++ e)
  return outcome.exitCode.toUInt32

end ArtifactPipeline.CommandLine

open ArtifactPipeline.CommandLine in
/-- The entry point of the program. -/
def main (arguments : List String) : IO UInt32 := do
  match Command.ofArguments arguments with
  | .ok command => runIO command ((← IO.getEnv "FORGE_LOG").any (·.endsWith "debug"))
  | .error e =>
    IO.eprintln ("error: " ++ e.message ++ "\n\n" ++ HelpTopic.program.text)
    return 2
