import Instrumentation.CommandLine.Arguments
import Instrumentation.Log
/-
  Requests

  What the arguments ask for. The options for logging and for the directory of the
  document may stand in either section; behind the command they win, and only where
  neither section has the directory is it taken from the environment.
-/

namespace Instrumentation.CommandLine

open Log (Level)

inductive TracedPart where
  | policy
  | telemetry
  | all
  deriving DecidableEq, Repr

def TracedPart.names : List (String × TracedPart) :=
  [("policy", policy), ("telemetry", telemetry), ("all", all)]

def levelNames : List (String × Level) :=
  [("error", .error), ("warn", .warn), ("info", .info), ("debug", .debug), ("trace", .trace)]

/-- The level where none is asked for. -/
def defaultLevel : Level := .warn

inductive View where
  | json
  | yaml
  | table
  deriving DecidableEq, Repr

inductive Command where
  | validate (json : Bool)
  | inspect (view : View)
  | lookup (className method signature : String)
  | spanName (identity : String)
  | emit (identity : String) (error output : Option String)
  deriving DecidableEq, Repr

/-- A command and the settings under which it runs. -/
structure Request where
  command : Command
  traced : List TracedPart
  level : Level
  configDirectory : Option String
  deriving DecidableEq, Repr

def commaSeparated (s : String) : List String :=
  (s.toList.splitOn ',').map String.ofList

def anyValue (_ : String) : Bool := true
def nonEmpty (s : String) : Bool := !s.isEmpty

/-- The options that may stand in either section. -/
def sharedOptions : List OptionForm :=
  [⟨"trace", .values fun s =>
      (commaSeparated s).all fun item => (TracedPart.names.lookup item).isSome⟩,
   ⟨"log-level", .value fun s => (levelNames.lookup s).isSome⟩,
   ⟨"config-dir", .value nonEmpty⟩]

def helpCommand : String := "help"

def commandForms : List (String × SectionForm) :=
  [("validate", { options := ⟨"json", .flag⟩ :: sharedOptions }),
   ("inspect",
     { options := [⟨"json", .flag⟩, ⟨"yaml", .flag⟩, ⟨"table", .flag⟩] ++ sharedOptions }),
   ("lookup",
     { options :=
         [⟨"class", .value anyValue⟩, ⟨"method", .value anyValue⟩,
          ⟨"signature", .value anyValue⟩] ++ sharedOptions }),
   ("span-name", { options := sharedOptions, operands := 1 }),
   ("emit",
     { options := [⟨"error", .value anyValue⟩, ⟨"output", .value nonEmpty⟩] ++ sharedOptions
       operands := 1 })]

/-- What may stand in front of a command. -/
def rootForm : SectionForm :=
  { options := sharedOptions
    commands := helpCommand :: commandForms.map (·.1)
    hasVersion := true }

/-- The view that flags ask for. At most one of them may be given. -/
def viewOf (given : Given) : Option View :=
  match given.has "json", given.has "yaml", given.has "table" with
  | true, false, false => some .json
  | false, true, false => some .yaml
  | false, false, _ => some .table
  | _, _, _ => none

def commandOf (name : String) (given : Given) : Option Command :=
  match name with
  | "validate" => some (.validate (given.has "json"))
  | "inspect" => (viewOf given).map .inspect
  | "lookup" => do
    return .lookup (← given.value? "class") (← given.value? "method")
      ((given.value? "signature").getD "")
  | "span-name" => given.operands.head?.map .spanName
  | "emit" => do
    return .emit (← given.operands.head?) (given.value? "error") (given.value? "output")
  | _ => none

def tracedParts (given : Given) : List TracedPart :=
  (given.values "trace").flatMap fun value =>
    (commaSeparated value).filterMap fun item => TracedPart.names.lookup item

/-- The directory of the document by what the sections and the environment say. Each
section that names none asks the environment, which must not name an empty one. -/
def configDirectoryOf (root given : Given) (environment : Option String) :
    Except Stop (Option String) :=
  match given.value? "config-dir", root.value? "config-dir" with
  | some directory, some _ => .ok (some directory)
  | inner, outer =>
    if environment == some "" then .error .misused
    else .ok (inner.or (outer.or environment))

/-- The request of a command with the section behind its name, `given`, and the one in
front of it, `root`. -/
def Request.ofSections (name : String) (root given : Given) (environment : Option String) :
    Except Stop Request :=
  match commandOf name given with
  | none => .error .misused
  | some command => do
    let level := (given.value? "log-level").or (root.value? "log-level")
    return {
      command
      traced := tracedParts (if given.has "trace" then given else root)
      level := (level.bind fun name => levelNames.lookup name).getD defaultLevel
      configDirectory := ← configDirectoryOf root given environment }

/-- Why a call for help about some commands ends the reading. -/
def stopAtHelp : List String → Stop
  | [] => .help
  | [name] => if rootForm.commands.contains name then .help else .misused
  | _ => .misused

/-- The request that arguments make, where `environment` is the directory that the
environment names. -/
def Request.ofArguments (environment : Option String) (arguments : List String) :
    Except Stop Request := do
  let (root, command?) ← rootForm.read {} arguments
  match command? with
  | none => .error .misused
  | some (name, rest) =>
    match commandForms.lookup name with
    | none => .error (stopAtHelp rest)
    | some form => do
      let (given, _) ← form.read {} rest
      Request.ofSections name root given environment

end Instrumentation.CommandLine
