import Instrumentation.CommandLine.Answer
import Instrumentation.CommandLine.Request
import Instrumentation.Format.Yaml.Block
import Instrumentation.Policy.Document
import Instrumentation.Policy.Listing
import Instrumentation.Policy.Report
/-
  Commands on policies

  Validating, showing and asking a policy. All three read the document in the same
  way and succeed on the same documents: those that give a policy.
-/

namespace Instrumentation.CommandLine

open Format (Json)
open Policy (Loader FileState LoadError)

/-! Validating. -/

/-- The result of loading as data, with the members in the order of their names. -/
def validationReport (loader : Loader) (state : FileState) :
    Except LoadError Policy → Json
  | .ok policy =>
    .object
      [("builtins", .array (policy.builtIns.enabledFeatures.map Json.string)),
       ("classes", .number policy.classCount),
       ("document_present", .bool state.isFile),
       ("methods", .number policy.methodCount),
       ("path", .string loader.documentPath),
       ("valid", .bool true)]
  | .error e =>
    .object
      [("error", .string e.message),
       ("path", .string loader.documentPath),
       ("valid", .bool false)]

def validationLines (loader : Loader) (policy : Policy) : List String :=
  if policy.isEmpty then ["No instrumentation configured in " ++ loader.documentPath]
  else
    let features := policy.builtIns.enabledFeatures
    ("Policy valid: " ++ toString policy.classCount ++ " classes, " ++
      toString policy.methodCount ++ " methods") ::
      (if features.isEmpty then []
      else ["Built-in instrumentation: " ++ String.intercalate ", " features])

/-- The number with which validating ends. -/
def validationExit : Except LoadError Policy → Nat
  | .ok _ => 0
  | .error _ => 1

def validationAnswer (loader : Loader) (state : FileState) (json : Bool)
    (result : Except LoadError Policy) : Answer :=
  let exit := validationExit result
  if json then { exit, output := (validationReport loader state result).pretty ++ "\n" }
  else
    match result with
    | .ok policy => { exit, output := ofLines (validationLines loader policy) }
    | .error e =>
      { exit
        complaint := ofLines (("Error: " ++ e.message) :: e.causes.map ("  caused by: " ++ ·)) }

def validate (loader : Loader) (state : FileState) (json : Bool) : Logged Answer := do
  Logged.event
    { level := .info
      origin := .commandLine
      message := "Validating policy document: " ++ loader.documentPath }
  return validationAnswer loader state json (← loader.tryLoadPolicy state)

/-! Showing. -/

/-- What is said of the built-in features in front of the table. -/
def featureLines (policy : Policy) : List String :=
  let b := policy.builtIns
  let features := b.enabledFeatures
  if features.isEmpty then ["Built-in instrumentation: disabled"]
  else
    ("Built-in instrumentation: " ++ String.intercalate ", " features) ::
      (if b.loggingEnabled then ["  logging threshold: " ++ b.logging.thresholdLevel] else []) ++
      (if b.jdbcEnabled then
        ["  query plan threshold: " ++ toString b.queryPlanThresholdMs.toNat ++ " ms"]
      else [])

/-- The table of the classes, or that there are none. -/
def classLines (policy : Policy) : List String :=
  if policy.listing.isEmpty then ["No classes instrumented."]
  else
    [toString policy.classCount ++ " classes, " ++ toString policy.methodCount ++ " methods",
     "", policy.listingGrid.text]

def viewed (policy : Policy) : View → String
  | .json => policy.report.pretty ++ "\n"
  | .yaml => Format.Yaml.text policy.report
  | .table => ofLines (featureLines policy ++ "" :: classLines policy)

/-- Goes on with the policy of the document, which there has to be. -/
def withPolicy (loader : Loader) (state : FileState) (f : Policy → Logged Answer) :
    Logged Answer := do
  match ← loader.tryLoadPolicy state with
  | .ok policy => f policy
  | .error e =>
    return .failure ("No instrumentation policy produced from " ++ loader.documentPath)
      (e.message :: e.causes)

def inspect (loader : Loader) (state : FileState) (view : View) : Logged Answer :=
  withPolicy loader state fun policy => do
    Logged.event
      { level := .debug
        origin := .commandLine
        message := "Inspecting policy with " ++ toString policy.classCount ++ " classes" }
    return { output := viewed policy view }

/-! Asking. -/

/-- How a method is traced. -/
inductive Tracing where
  /-- There is no rule for its class. -/
  | uninstrumented
  | untraced
  | traced (typeTag : String) (thresholdMs : UInt64)
  deriving DecidableEq, Repr

def tracingOf (policy : Policy) (className method signature : String) : Tracing :=
  match policy.classRule? className with
  | none => .uninstrumented
  | some rule =>
    match rule.methodRule? method signature with
    | none => .untraced
    | some found => .traced rule.typeTag found.thresholdMs

def Tracing.text (className method : String) : Tracing → String
  | uninstrumented => className ++ " is not instrumented"
  | untraced => className ++ "." ++ method ++ " is not traced"
  | traced typeTag thresholdMs =>
    className ++ "." ++ method ++ " traced as " ++ typeTag ++ " with threshold " ++
      toString thresholdMs.toNat ++ " ms"

def lookup (loader : Loader) (state : FileState) (className method signature : String) :
    Logged Answer :=
  withPolicy loader state fun policy =>
    let found := tracingOf policy className method signature
    return { output := found.text className method ++ "\n" }

end Instrumentation.CommandLine
