import Instrumentation.Proofs.Telemetry.LineHistory
/-
  Tracking one record

  A sink that adds records to a file drops a record that it cannot write, with a warning.
  It does so when the file does not take the line. A timestamp for which there is no
  written form is met before there is a line, and no warning stands for that.

  What is proved:
    1. `tracking_a_record` — a record in a year that can be written is added or dropped with
       one warning, and tracking returns; any other record unwinds out of the sink.
    2. `distant_record_unwinds` — there are records of the second kind.
-/

namespace Instrumentation.Telemetry

open Files (Tree)
open Format (bytes)
open Time (Timestamp firstDay)

/-- Whether the year of a timestamp is one that can be written. -/
def HasWrittenYear (timestamp : Timestamp) : Prop :=
  firstDay (-262143) * 86400 ≤ timestamp.seconds ∧ timestamp.seconds < firstDay 262143 * 86400

instance (timestamp : Timestamp) : Decidable (HasWrittenYear timestamp) :=
  inferInstanceAs (Decidable (_ ∧ _))

/-- The warning that a record was dropped since it could not be written. -/
def dropWarning (file : LineFile) (record : Record) : Log.Event :=
  { level := .warn
    origin := .lineFile
    message := "Dropping telemetry record: Failed to write telemetry record"
    fields := [("path", .plain file.path), ("span_id", .quoted record.spanId)] }

/-! ## Tracking -/

theorem text_of_hasWrittenYear {record : Record} (h : HasWrittenYear record.timestamp) :
    record.text = .returned record.data.compact := by
  rw [text_eq, if_pos ((Time.isWritable_iff _).2 h)]

theorem text_of_not_hasWrittenYear {record : Record} (h : ¬HasWrittenYear record.timestamp) :
    record.text = .unwound (.literal "No such local time") := by
  rw [text_eq, if_neg fun hwritable => h ((Time.isWritable_iff _).1 hwritable)]

/-- A record without a line unwinds out of the sink. -/
theorem run_sink_unwound {record : Record} {p : Guard.Payload} (h : record.text = .unwound p)
    (file : LineFile) (tree : Tree) : (file.sink record).run tree = ⟨(.unwound p, tree), []⟩ :=
  Effect.run_bind_unwound (run_write_unwound h file tree) _

/-- A record with a line is added, or dropped with a warning. -/
theorem run_sink_returned {record : Record} {line : String} (h : record.text = .returned line)
    (file : LineFile) (tree : Tree) :
    (file.sink record).run tree =
      match tree.append file.path (line ++ "\n").toUTF8 with
      | (.error _, after) => ⟨(.returned (), after), [dropWarning file record]⟩
      | (.ok (), after) => ⟨(.returned (), after), []⟩ := by
  have hwrite := run_write_returned h file tree
  rcases happend : tree.append file.path (line ++ "\n").toUTF8 with ⟨_ | _, after⟩ <;>
    rw [happend] at hwrite <;> exact Effect.run_bind_returned hwrite _

/-- Tracking a record whose year can be written returns: a file or a draining device has
taken its line and a line break, and nothing is logged; or there is no file and all is as
it was, and one warning says that the record was dropped. Tracking any other record unwinds
with a message of its own, and neither adds nor logs anything. -/
theorem tracking_a_record (file : LineFile) (record : Record) (tree : Tree) :
    (HasWrittenYear record.timestamp → ∃ line, record.text = .returned line ∧
      ((∃ after, tree.Takes file.path (bytes line ++ [10]) after ∧
        (file.sink record).run tree = ⟨(.returned (), after), []⟩) ∨
      (∀ old, tree.entry? (tree.place file.path) ≠ some (.file old)) ∧
        (file.sink record).run tree = ⟨(.returned (), tree), [dropWarning file record]⟩)) ∧
    (¬HasWrittenYear record.timestamp →
      (file.sink record).run tree = ⟨(.unwound (.literal "No such local time"), tree), []⟩) := by
  constructor
  · intro hyear
    have htext := text_of_hasWrittenYear hyear
    have hrun := run_sink_returned htext file tree
    refine ⟨_, htext, ?_⟩
    rcases tree.append_cases file.path (record.data.compact ++ "\n").toUTF8 with
      ⟨after, happend, htakes⟩ | ⟨cause, happend, hnone⟩
    · rw [happend] at hrun
      rw [bytes_line] at htakes
      exact .inl ⟨after, htakes, hrun⟩
    · rw [happend] at hrun
      exact .inr ⟨hnone, hrun⟩
  · intro hyear
    exact run_sink_unwound (text_of_not_hasWrittenYear hyear) file tree

def oneLine : Tree := { entries := [(["t"], .file "old\n".toUTF8)] }

/-- The last whole second that can be written, and the longest duration. -/
def lastCall : Record :=
  .dependency
    { spanId := "00ff"
      name := "a.b"
      timestamp := ⟨firstDay 262143 * 86400 - 1, 999999999, by decide⟩
      duration := ⟨.ofNat (2 ^ 64 - 1), 999999999, by decide⟩
      success := true }

theorem tracking_a_record_of_last_call :
    HasWrittenYear lastCall.timestamp ∧
    ∃ line after, lastCall.text = .returned line ∧
      oneLine.Takes "/t" (bytes line ++ [10]) after ∧
      (LineFile.sink ⟨"/t"⟩ lastCall).run oneLine = ⟨(.returned (), after), []⟩ := by
  have hyear : HasWrittenYear lastCall.timestamp := by decide
  obtain ⟨line, htext, ⟨after, htakes, hrun⟩ | ⟨hnone, -⟩⟩ :=
    (tracking_a_record ⟨"/t"⟩ lastCall oneLine).1 hyear
  · exact ⟨hyear, line, after, htext, htakes, hrun⟩
  · exact absurd rfl (hnone "old\n".toUTF8)

/-- An error in a year that the clock can hold but that cannot be written, tracked by a sink
that was just opened on a new file: it unwinds out of the sink. -/
theorem distant_record_unwinds :
    distantError.timestamp.seconds < 2 ^ 63 ∧
    ∃ opened : Tree,
      ((LineFile.create "/t").run { entries := [] }).value = (.returned (.ok ⟨"/t"⟩), opened) ∧
      (LineFile.sink ⟨"/t"⟩ distantError).run opened =
        ⟨(.unwound (.literal "No such local time"), opened), []⟩ ∧
      ¬∃ after events,
        (LineFile.sink ⟨"/t"⟩ distantError).run opened = ⟨(.returned (), after), events⟩ := by
  have htext : distantError.text = .unwound (.literal "No such local time") := by decide +kernel
  refine ⟨by decide, _, rfl, run_sink_unwound htext _ _, ?_⟩
  rintro ⟨after, events, hreturned⟩
  rw [run_sink_unwound htext] at hreturned
  cases hreturned

end Instrumentation.Telemetry
