import Instrumentation.CommandLine.Commands
import Instrumentation.CommandLine.ConfigDirectory
import Instrumentation.CommandLine.Emission
import Instrumentation.CommandLine.Logging
/-
  Running a command line

  From the arguments to the answer, the events that are shown, and the files as
  they are left.
-/

namespace Instrumentation.CommandLine

open Policy (Loader FileState)

/-- What a run finds around it. -/
structure Surroundings where
  environment : Environment
  /-- How many bytes a directory has. -/
  directorySize : UInt64 := 4096
  now : Time.Moment
  /-- The id that a span gets. -/
  spanId : String

/-- Runs a command on the document of a directory, which there has to be. -/
def onDocument (around : Surroundings) (named : Option String)
    (f : Loader → FileState → Logged Answer) : Effect Files.Tree Answer := do
  match ← Effect.ofLogged (documentDirectory? around.environment named) with
  | none => return .failure "Could not determine platform config directory"
  | some baseDirectory =>
    let loader : Loader := { baseDirectory }
    let tree ← Effect.state
    Effect.ofLogged (f loader (.inTree tree around.directorySize loader.documentPath))

def Request.run (around : Surroundings) (request : Request) : Effect Files.Tree Answer := do
  if !request.traced.isEmpty then Effect.event (tracingEnabled request.traced)
  match request.command with
  | .validate json =>
    onDocument around request.configDirectory (validate · · json)
  | .inspect view =>
    onDocument around request.configDirectory (inspect · · view)
  | .lookup className method signature =>
    onDocument around request.configDirectory (lookup · · className method signature)
  | .spanName identity => do
    let name ← Effect.ofLogged (Telemetry.displayName identity)
    return { output := name ++ "\n" }
  | .emit identity error output =>
    emit { id := around.spanId, identity, error, now := around.now } output

def Request.document? (around : Surroundings) (request : Request) : Option String :=
  match request.command with
  | .validate _ | .inspect _ | .lookup .. =>
    (documentDirectory? around.environment request.configDirectory).value.map
      fun baseDirectory => (Loader.mk baseDirectory {}).documentPath
  | .spanName _ | .emit .. => none

/-- The file to which a request adds records. -/
def Request.recordFile? (request : Request) : Option String :=
  match request.command with
  | .emit _ _ output => output
  | _ => none

/-- What a run of the program leaves behind. -/
structure Performance where
  answer : Answer
  /-- The events that are shown. -/
  events : List Log.Event := []
  /-- Whether events are shown as data. -/
  structured : Bool := false
  tree : Files.Tree

def usage : String :=
  ofLines
    ["Usage: tracehook [OPTIONS] <COMMAND>",
     "",
     "Commands:",
     "  validate   Check that the policy document resolves [--json]",
     "  inspect    Print the resolved policy [--json | --yaml | --table]",
     "  lookup     Show whether a method is traced and at what threshold",
     "             --class <CLASS> --method <METHOD> [--signature <SIGNATURE>]",
     "  span-name  Print the telemetry name derived from a span <IDENTITY>",
     "  emit       Run one span <IDENTITY> [--error <ERROR>] [--output <OUTPUT>]",
     "",
     "Options:",
     "      --trace <TRACE>            Trace parts: policy, telemetry, all",
     "      --log-level <LOG_LEVEL>    error, warn, info, debug, trace [default: warn]",
     "      --config-dir <CONFIG_DIR>  Directory of the document",
     "  -h, --help                     Print help",
     "  -V, --version                  Print version"]

def versionText : String := "tracehook 0.1.0\n"

def Stop.answer : Stop → Answer
  | misused => { exit := 2, complaint := usage }
  | help => { output := usage }
  | version => { output := versionText }

/-- The number with which the program ends when a command unwinds. -/
def unwoundExit : Nat := 101

def perform (around : Surroundings) (tree : Files.Tree) (arguments : List String) :
    Performance :=
  match Request.ofArguments around.environment.configDirectory arguments with
  | .error stop => { answer := stop.answer, tree }
  | .ok request =>
    let ⟨(outcome, tree), events⟩ := (request.run around).run tree
    { answer :=
        match outcome with
        | .returned answer => answer
        | .unwound _ => { exit := unwoundExit }
      events := events.filter (Filter.ofRequest request).shows
      structured := !request.traced.isEmpty
      tree }

end Instrumentation.CommandLine
