import Instrumentation.Format.Json
import Instrumentation.Guard
import Instrumentation.Telemetry.Fault
import Instrumentation.Time.Written
/-
  Telemetry records

  A completed span is reported as a dependency call and, if an error was recorded
  on it, as an exception. A record is written as one line: its data in compact
  form, which holds no line break, and a line break at the end.
-/

namespace Instrumentation.Telemetry

open Format (Json)
open Time (Timestamp Duration)

def customCategory : String := "OTHER"

/-- A traced call. -/
structure Dependency where
  spanId : String
  name : String
  category : String := customCategory
  timestamp : Timestamp
  duration : Duration
  success : Bool
  deriving DecidableEq, Repr

/-- The error of a traced call. -/
structure Exception where
  spanId : String
  timestamp : Timestamp
  fault : Fault
  deriving DecidableEq, Repr

/-- What a span hands over. -/
inductive Record where
  | dependency (dependency : Dependency)
  | exception (exception : Exception)
  deriving DecidableEq, Repr

namespace Record

def spanId : Record → String
  | dependency d => d.spanId
  | exception e => e.spanId

def dependency? : Record → Option Dependency
  | dependency d => some d
  | exception _ => none

def exception? : Record → Option Exception
  | dependency _ => none
  | exception e => some e

end Record

/-- The data of a call whose timestamp is written as `timestamp`. -/
def Dependency.report (d : Dependency) (timestamp : String) : Json :=
  .object
    [("kind", .string "dependency"),
     ("span_id", .string d.spanId),
     ("name", .string d.name),
     ("category", .string d.category),
     ("timestamp", .string timestamp),
     ("duration_ms", .number d.duration.wholeMs.toNat),
     ("success", .bool d.success)]

/-- The data of an error whose timestamp is written as `timestamp`. An error that
nothing led to has no list of causes. -/
def Exception.report (e : Exception) (timestamp : String) : Json :=
  .object <|
    [("kind", .string "exception"),
     ("span_id", .string e.spanId),
     ("timestamp", .string timestamp),
     ("message", .string e.fault.message)] ++
    (if e.fault.causes.isEmpty then []
     else [("causes", .array (e.fault.causes.map Json.string))])

namespace Record

def timestamp : Record → Timestamp
  | dependency d => d.timestamp
  | exception e => e.timestamp

/-- The data of a record. There is none if its timestamp cannot be written. -/
def report (record : Record) : Guard.Outcome Json :=
  match record.timestamp.text? with
  | none => .unwound (.literal "No such local time")
  | some timestamp =>
    match record with
    | dependency d => .returned (d.report timestamp)
    | exception e => .returned (e.report timestamp)

/-- The text of a record, without the line break at its end. -/
def text (record : Record) : Guard.Outcome String :=
  match record.report with
  | .returned data => .returned data.compact
  | .unwound p => .unwound p

end Record

end Instrumentation.Telemetry
