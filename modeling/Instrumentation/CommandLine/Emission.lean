import Instrumentation.CommandLine.Answer
import Instrumentation.Telemetry.LineFile
import Instrumentation.Telemetry.Span
/-
  Emitting a span

  Starts one span and completes it, with an error if there is one. Its records go
  to a file or, if there is none, to the log.
-/

namespace Instrumentation.CommandLine

open Telemetry (Sink Session LineFile Call)

/-- What is known of a span before it is started. -/
structure SpanPlan where
  id : String
  identity : String
  error : Option String
  now : Time.Moment

def SpanPlan.start (plan : SpanPlan) : Call :=
  .start plan.id plan.identity plan.now.steady plan.now.wall

def SpanPlan.complete (plan : SpanPlan) : Call :=
  match plan.error with
  | some message => .completeWithError plan.id [] (.root message) plan.now
  | none => .complete plan.id plan.now

def runSpan (sink : Sink Files.Tree) (plan : SpanPlan) : Effect Files.Tree Answer :=
  Effect.onPart (fun tree => (⟨[], tree⟩ : Session Files.Tree)) (fun _ session => session.sink) do
    let _ ← Session.call sink plan.start
    Effect.event
      { level := .debug
        origin := .commandLine
        message := "Emitting span"
        fields := [("span_id", .quoted plan.id)] }
    let _ ← Session.call sink plan.complete
    return { output := plan.id ++ "\n" }

/-- Runs a span; `output` is the path of the file for its records. -/
def emit (plan : SpanPlan) (output : Option String) : Effect Files.Tree Answer := do
  match output with
  | none => runSpan Telemetry.eventSink plan
  | some path =>
    match ← LineFile.create path with
    | .ok file => runSpan file.sink plan
    | .error e => return .failure ("Failed to open " ++ path) (e.message :: e.causes)

end Instrumentation.CommandLine
