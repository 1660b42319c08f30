import Instrumentation.Effect
import Instrumentation.Telemetry.Record
/-
  Sinks

  A sink takes records over one by one. It reports nothing back to the span that a
  record came from, but it may unwind. One sink keeps records in memory, another
  logs each as an event.
-/

namespace Instrumentation.Telemetry

/-- A destination of records with a state of its own. -/
def Sink (σ : Type) : Type := Record → Effect σ Unit

/-- Records in the order in which they arrived. -/
structure Memory where
  records : List Record
  deriving DecidableEq, Repr

namespace Memory

def empty : Memory := ⟨[]⟩
def push (memory : Memory) (record : Record) : Memory := ⟨memory.records ++ [record]⟩

def dependencies (memory : Memory) : List Dependency :=
  memory.records.filterMap Record.dependency?

def exceptions (memory : Memory) : List Exception :=
  memory.records.filterMap Record.exception?

def size (memory : Memory) : Nat := memory.records.length
def isEmpty (memory : Memory) : Bool := memory.records.isEmpty
def drain (memory : Memory) : List Record × Memory := (memory.records, empty)
def sink : Sink Memory := fun record => Effect.change (·.push record)

end Memory

def Record.event : Record → Log.Event
  | dependency d =>
    { level := .info
      origin := .telemetry
      message := "dependency"
      fields :=
        [("span_id", .plain d.spanId),
         ("name", .plain d.name),
         ("category", .plain d.category),
         ("duration_ms", .number d.duration.wholeMs.toNat),
         ("success", .flag d.success)] }
  | exception e =>
    { level := .warn
      origin := .telemetry
      message := "exception: " ++ e.fault.message
      fields := [("span_id", .plain e.spanId), ("causes", .texts e.fault.causes)] }

/-- The sink that logs every record. -/
def eventSink {σ : Type} : Sink σ := fun record => Effect.event record.event

end Instrumentation.Telemetry
