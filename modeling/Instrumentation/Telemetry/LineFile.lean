import Instrumentation.Files.Tree
import Instrumentation.Telemetry.Sink
/-
  Files of records

  A sink that adds each record as a line at the end of a file and leaves what stood
  there before alone. A record that cannot be added is dropped with a warning.
-/

namespace Instrumentation.Telemetry

open Files (Tree Failure)

/-- Why a file takes no records, or not this one. -/
inductive SinkError where
  | unopened (path : String) (cause : Failure)
  | unwritten (cause : Failure)
  | unserialized (cause : String)
  deriving DecidableEq, Repr

namespace SinkError

def message : SinkError → String
  | unopened path _ => "Failed to open telemetry output " ++ path
  | unwritten _ => "Failed to write telemetry record"
  | unserialized _ => "Failed to serialize telemetry record"

def causes : SinkError → List String
  | unopened _ cause => [cause.message]
  | unwritten cause => [cause.message]
  | unserialized cause => [cause]

end SinkError

/-- A file that is open for records. -/
structure LineFile where
  path : String
  deriving DecidableEq, Repr

namespace LineFile

/-- Opens the file at a path, making it and the directories above it as needed. -/
def create (path : String) : Effect Tree (Except SinkError LineFile) := do
  match ← Effect.ofChange (·.makeParents path) with
  | .error cause => return .error (.unopened path cause)
  | .ok () =>
    match ← Effect.ofChange (·.openForAppend path) with
    | .error cause => return .error (.unopened path cause)
    | .ok () => return .ok ⟨path⟩

/-- Adds a record as a line at the end of the file. -/
def write (file : LineFile) (record : Record) : Effect Tree (Except SinkError Unit) := do
  let line ← Effect.ofOutcome record.text
  match ← Effect.ofChange (·.append file.path (line ++ "\n").toUTF8) with
  | .error cause => return .error (.unwritten cause)
  | .ok () => return .ok ()

def sink (file : LineFile) : Sink Tree := fun record => do
  match ← file.write record with
  | .ok () => pure ()
  | .error e =>
    Effect.event
      { level := .warn
        origin := .lineFile
        message := "Dropping telemetry record: " ++ e.message
        fields := [("path", .plain file.path), ("span_id", .quoted record.spanId)] }

end LineFile

end Instrumentation.Telemetry
