import Instrumentation.Telemetry.Record
import Instrumentation.Proofs.Format.JsonMembers
import Instrumentation.Proofs.Time.TimestampReading
/-
  Reading records back from their lines

  The line of a record says which of the two kinds it is, and all that it reports but
  the part of a duration below a millisecond. Where an error has no causes the line has
  no list of them.

  What is proved:
    1. `text_eq` — a record has a line if its timestamp can be written, and its line is
       then the text of its data.
    2. `ofReport?_data` — what the record says is read back from its data.
    3. `line_reads_back` — so it is read back from its line, whatever characters its
       texts are made of, and two records have one line if they say the same.
-/

namespace Instrumentation.Telemetry

open Format (Json)
open Time (Timestamp firstDay)

/-! ## What a line says -/

/-- What is said of a traced call. -/
structure CallLine where
  spanId : String
  name : String
  category : String
  timestamp : Timestamp
  durationMs : UInt64
  success : Bool
  deriving DecidableEq, Repr

/-- What a line says. -/
inductive Line where
  | call (call : CallLine)
  | error (error : Exception)
  deriving DecidableEq, Repr

/-- What is said of a record: of its duration only the whole milliseconds, modulo
`2 ^ 64`. -/
def Record.line : Record → Line
  | dependency d => .call ⟨d.spanId, d.name, d.category, d.timestamp, d.duration.wholeMs, d.success⟩
  | exception e => .error e

/-! ## The reader -/

def timestampOf? (report : Json) : Option Timestamp := do
  Timestamp.ofText? (← (← report.member? "timestamp").text?)

/-- The causes of a reported error. A report without a list of them says that there are
none. -/
def causesOf? (report : Json) : Option (List String) :=
  match report.member? "causes" with
  | none => some []
  | some list => do (← list.items?).mapM Json.text?

def CallLine.ofReport? (report : Json) : Option CallLine := do
  return {
    spanId := ← (← report.member? "span_id").text?
    name := ← (← report.member? "name").text?
    category := ← (← report.member? "category").text?
    timestamp := ← timestampOf? report
    durationMs := ← (← report.member? "duration_ms").word?
    success := ← (← report.member? "success").flag? }

def Exception.ofReport? (report : Json) : Option Exception := do
  return {
    spanId := ← (← report.member? "span_id").text?
    timestamp := ← timestampOf? report
    fault := .ofTexts (← (← report.member? "message").text?) (← causesOf? report) }

def Line.ofReport? (report : Json) : Option Line := do
  let kind ← (← report.member? "kind").text?
  if kind = "dependency" then (CallLine.ofReport? report).map .call
  else if kind = "exception" then (Exception.ofReport? report).map .error
  else none

def Line.ofText? (text : String) : Option Line := (Json.read? text).bind Line.ofReport?

/-! ## The data of a record is read back -/

/-- The data of a record, whether or not its timestamp can be written. -/
def Record.data : Record → Json
  | dependency d => d.report (String.ofList d.timestamp.written)
  | exception e => e.report (String.ofList e.timestamp.written)

theorem text_eq (record : Record) :
    record.text =
      if record.timestamp.date.isWritable then .returned record.data.compact
      else .unwound (.literal "No such local time") := by
  unfold Record.text Record.report Timestamp.text?
  cases hwritable : record.timestamp.date.isWritable with
  | false => rfl
  | true => cases record <;> rfl

theorem ofReport?_dependency (d : Dependency) :
    CallLine.ofReport? (Record.dependency d).data =
      some ⟨d.spanId, d.name, d.category, d.timestamp, d.duration.wholeMs, d.success⟩ := by
  simp [CallLine.ofReport?, Record.data, Dependency.report, timestampOf?, Time.ofText?_written]

/-- An error without causes has no member for them, and no causes are read. -/
theorem causesOf?_report (e : Exception) (timestamp : String) :
    causesOf? (e.report timestamp) = some e.fault.causes := by
  cases hcauses : e.fault.causes with
  | nil =>
    have hnone : (e.report timestamp).member? "causes" = none := by
      rw [Exception.report, hcauses]
      rfl
    rw [causesOf?, hnone]
  | cons cause causes =>
    have hread : ((cause :: causes).map Json.string).mapM Json.text? = some (cause :: causes) :=
      Json.mapM_map_some fun _ _ => rfl
    simpa [causesOf?, Exception.report, hcauses] using hread

theorem ofReport?_exception (e : Exception) :
    Exception.ofReport? (Record.exception e).data = some e := by
  have hcauses := causesOf?_report e (String.ofList e.timestamp.written)
  simp [Exception.ofReport?, Record.data, timestampOf?, hcauses]
  simp [Exception.report, Time.ofText?_written]

/-- What a record says is read back from its data. -/
theorem ofReport?_data (record : Record) : Line.ofReport? record.data = some record.line := by
  cases record with
  | dependency d =>
    have hkind : (Record.dependency d).data.member? "kind" = some (.string "dependency") := rfl
    simp [Line.ofReport?, hkind, ofReport?_dependency, Record.line]
  | exception e =>
    have hkind : (Record.exception e).data.member? "kind" = some (.string "exception") := rfl
    simp [Line.ofReport?, hkind, ofReport?_exception, Record.line]

/-! ## The line of a record -/

theorem ofText?_text {record : Record} {text : String} (h : record.text = .returned text) :
    Line.ofText? text = some record.line := by
  rw [text_eq] at h
  split at h
  · obtain rfl := Guard.Outcome.returned.inj h
    rw [Line.ofText?, Json.read?_compact, Option.bind_some, ofReport?_data]
  · cases h

/-- Records that say the same have the same line, or both none. -/
theorem text_congr {record other : Record} (h : other.line = record.line) :
    other.text = record.text := by
  have htimestamp : other.timestamp = record.timestamp := by
    cases other <;> cases record <;> simp_all [Record.line, Record.timestamp]
  have hdata : other.data = record.data := by
    cases other <;> cases record <;>
      simp_all [Record.line, Record.data, Dependency.report]
  rw [text_eq, text_eq, htimestamp, hdata]

/-- A record whose timestamp lies in the years that can be written has a line, from which
all that the record says is read back; and the records that have this line are those that
say the same. -/
theorem line_reads_back (record : Record)
    (hfrom : firstDay (-262143) * 86400 ≤ record.timestamp.seconds)
    (hto : record.timestamp.seconds < firstDay 262143 * 86400) :
    ∃ text, record.text = .returned text ∧ Line.ofText? text = some record.line ∧
      ∀ other : Record, other.text = .returned text ↔ other.line = record.line := by
  have hwritable := (Time.isWritable_iff record.timestamp).2 ⟨hfrom, hto⟩
  have htext : record.text = .returned record.data.compact := by
    rw [text_eq, if_pos hwritable]
  refine ⟨_, htext, ofText?_text htext, fun other => ⟨fun h => ?_, fun h => ?_⟩⟩
  · have hother := ofText?_text h
    rw [ofText?_text htext] at hother
    exact (Option.some.inj hother).symm
  · rw [text_congr h, htext]

/-- An error in the last second of the leap day of year 0, whose texts hold a line break,
quotation marks and a control character. -/
def earlyError : Record :=
  .exception
    { spanId := "00ff"
      timestamp := ⟨-62162035201, 999999001, by decide⟩
      fault := .ofTexts "first\nsecond \"quoted\"" ["\x01", "µ"] }

theorem line_reads_back_of_early :
    firstDay (-262143) * 86400 ≤ earlyError.timestamp.seconds ∧
    earlyError.timestamp.seconds < firstDay 262143 * 86400 ∧
    earlyError.timestamp.date = ⟨0, 2, 29⟩ ∧
    ∃ text, earlyError.text = .returned text ∧ Line.ofText? text = some earlyError.line ∧
      ∀ other : Record, other.text = .returned text ↔ other.line = earlyError.line := by
  have hfrom : firstDay (-262143) * 86400 ≤ earlyError.timestamp.seconds := by decide
  have hto : earlyError.timestamp.seconds < firstDay 262143 * 86400 := by decide
  exact ⟨hfrom, hto, by decide, line_reads_back earlyError hfrom hto⟩

end Instrumentation.Telemetry
