import Instrumentation.Proofs.Telemetry.Delivery
/-
  Deeds on a span

  The calls that were made on a span are written down in the order in which their
  last accesses were made, each with what it came to. The deeds, the records in the
  sink and what the calls on the span share tell of one another: that is the
  invariant of one span (`SpanInvariant`).

  What is proved:
    1. `SpanInvariant.append` — what is done to other spans does not disturb it.
    2. `SpanInvariant.record`, `SpanInvariant.complete`, `SpanInvariant.completeWith` — the
       last accesses of a call keep it, whatever the span has come to since the call began.
-/

namespace Instrumentation.Telemetry

open Time (Moment)

/-! ## What was done to a span -/

/-- A call that was made on a span, and what it came to. -/
inductive Deed where
  /-- An error was offered, and kept or refused. -/
  | recorded (id : String) (fault : Fault) (kept : Bool)
  /-- The span was completed, with an error of the call's own or without; whether the
  call emitted. -/
  | completed (id : String) (own : Option Fault) (emitted : Bool)
  deriving DecidableEq, Repr

namespace Deed

def id : Deed → String
  | recorded id _ _ | completed id _ _ => id

/-- The error that recording it kept on a span. -/
def keptFault? (span : String) : Deed → Option Fault
  | recorded id fault true => if id = span then some fault else none
  | recorded _ _ false | completed _ _ _ => none

/-- The error of a completion's own and whether it emitted. -/
def completion? (span : String) : Deed → Option (Option Fault × Bool)
  | completed id own emitted => if id = span then some (own, emitted) else none
  | recorded _ _ _ => none

end Deed

def keptFaults (span : String) (deeds : List Deed) : List Fault :=
  deeds.filterMap (Deed.keptFault? span)

/-- The completions of a span: the error of each one's own, and whether it emitted. -/
def completions (span : String) (deeds : List Deed) : List (Option Fault × Bool) :=
  deeds.filterMap (Deed.completion? span)

mutual

/-- What was done by a call with its answer, the deeds of its error first. -/
def Call.deeds : Call → Reply → List Deed
  | .recordError id before fault, .recorded inner kept =>
    deedsOf before inner ++ [.recorded id fault kept]
  | .complete id _, .completed _ emitted => [.completed id none emitted]
  | .completeWithError id before fault _, .completed inner emitted =>
    deedsOf before inner ++ [.completed id (some fault) emitted]
  | _, _ => []

def deedsOf : List Call → List Reply → List Deed
  | c :: cs, reply :: replies => c.deeds reply ++ deedsOf cs replies
  | _, _ => []

end

theorem keptFaults_append (span : String) (deeds more : List Deed) :
    keptFaults span (deeds ++ more) = keptFaults span deeds ++ keptFaults span more :=
  List.filterMap_append

theorem completions_append (span : String) (deeds more : List Deed) :
    completions span (deeds ++ more) = completions span deeds ++ completions span more :=
  List.filterMap_append

theorem keptFaults_eq_nil {span : String} {deeds : List Deed} (h : ∀ d ∈ deeds, d.id ≠ span) :
    keptFaults span deeds = [] := by
  rw [keptFaults, List.filterMap_eq_nil_iff]
  intro d hd
  have hne := h d hd
  cases d with
  | recorded id fault kept => cases kept <;> simp_all [Deed.keptFault?, Deed.id]
  | completed id own emitted => rfl

theorem completions_eq_nil {span : String} {deeds : List Deed} (h : ∀ d ∈ deeds, d.id ≠ span) :
    completions span deeds = [] := by
  rw [completions, List.filterMap_eq_nil_iff]
  intro d hd
  have hne := h d hd
  cases d <;> simp_all [Deed.completion?, Deed.id]

/-! ## The invariant of one span -/

/-- The records hold a block of records of a span, and nothing else of it. -/
def Alone (id : String) (block records : List Record) : Prop :=
  ∃ before behind, records = before ++ block ++ behind ∧
    ∀ record ∈ before ++ behind, record.spanId ≠ id

/-- How the deeds and the records agree with a span. -/
inductive SpanInvariant (deeds : List Deed) (records : List Record) (span : Span) : Prop where
  /-- The span is open: the error in its cell was kept and is visible, and it has no
  records yet. -/
  | opened (hopen : span.shared.ended = false)
      (hflag : span.shared.errored = span.shared.stored.isSome)
      (hkept : keptFaults span.id deeds = span.shared.stored.toList)
      (hcompletions : completions span.id deeds = [])
      (hrecords : ∀ record ∈ records, record.spanId ≠ span.id)
  /-- The span has ended: one completion emitted, and its records tell of the error
  that was kept, or else of the completion's own. -/
  | ended (own : Option Fault) (now : Moment) (hended : span.shared.ended = true)
      (hstored : span.shared.errored = true → span.shared.stored.isSome)
      (hkept : (keptFaults span.id deeds).length ≤ 1)
      (hemitted : (completions span.id deeds).filter (·.2) = [(own, true)])
      (herror : span.shared.error? = (keptFaults span.id deeds).head?.or own)
      (hrecords : Alone span.id (span.records span.shared.error? now) records)

theorem Alone.append {id : String} {block records more : List Record} (h : Alone id block records)
    (hmore : ∀ record ∈ more, record.spanId ≠ id) : Alone id block (records ++ more) := by
  obtain ⟨before, behind, rfl, hothers⟩ := h
  refine ⟨before, behind ++ more, by simp, ?_⟩
  intro record hrecord
  rw [← List.append_assoc] at hrecord
  rcases List.mem_append.1 hrecord with h | h
  · exact hothers record h
  · exact hmore record h

/-- What is done to other spans tells nothing of a span. -/
theorem SpanInvariant.append {deeds more : List Deed} {records new : List Record} {span : Span}
    (h : SpanInvariant deeds records span) (hmore : ∀ d ∈ more, d.id ≠ span.id)
    (hnew : ∀ record ∈ new, record.spanId ≠ span.id) :
    SpanInvariant (deeds ++ more) (records ++ new) span := by
  have hk : keptFaults span.id (deeds ++ more) = keptFaults span.id deeds := by
    rw [keptFaults_append, keptFaults_eq_nil hmore, List.append_nil]
  have hc : completions span.id (deeds ++ more) = completions span.id deeds := by
    rw [completions_append, completions_eq_nil hmore, List.append_nil]
  cases h with
  | opened hopen hflag hkept hcompletions hrecords =>
    refine .opened hopen hflag (hk.trans hkept) (hc.trans hcompletions) ?_
    intro record hrecord
    rcases List.mem_append.1 hrecord with h | h
    · exact hrecords record h
    · exact hnew record h
  | ended own now hended hstored hkept hemitted herror hrecords =>
    rw [← hk] at hkept herror
    rw [← hc] at hemitted
    exact .ended own now hended hstored hkept hemitted herror (hrecords.append hnew)

section Calls

variable {deeds : List Deed} {records : List Record} {span : Span}

/-- The error of an open span is visible if there is one. -/
theorem SpanInvariant.errored_of_open (h : SpanInvariant deeds records span)
    (hopen : span.shared.ended = false) :
    span.shared.errored = span.shared.stored.isSome := by
  cases h with
  | opened _ hflag => exact hflag
  | ended own now hended =>
    rw [hopen] at hended
    cases hended

/-- A refused error changes nothing. -/
theorem SpanInvariant.refused (h : SpanInvariant deeds records span) (fault : Fault) :
    SpanInvariant (deeds ++ [.recorded span.id fault false]) records span := by
  have hk : keptFaults span.id (deeds ++ [.recorded span.id fault false]) =
      keptFaults span.id deeds := by
    simp [keptFaults, Deed.keptFault?]
  have hc : completions span.id (deeds ++ [.recorded span.id fault false]) =
      completions span.id deeds := by
    simp [completions, Deed.completion?]
  cases h with
  | opened hopen hflag hkept hcompletions hrecords =>
    exact .opened hopen hflag (hk.trans hkept) (hc.trans hcompletions) hrecords
  | ended own now hended hstored hkept hemitted herror hrecords =>
    rw [← hk] at hkept herror
    rw [← hc] at hemitted
    exact .ended own now hended hstored hkept hemitted herror hrecords

/-- A late completion changes nothing. -/
theorem SpanInvariant.late (h : SpanInvariant deeds records span) (hend : span.shared.ended = true)
    (own : Option Fault) :
    SpanInvariant (deeds ++ [.completed span.id own false]) records span := by
  have hk : keptFaults span.id (deeds ++ [.completed span.id own false]) =
      keptFaults span.id deeds := by
    simp [keptFaults, Deed.keptFault?]
  have hc : (completions span.id (deeds ++ [.completed span.id own false])).filter (·.2) =
      (completions span.id deeds).filter (·.2) := by
    simp [completions, Deed.completion?]
  cases h with
  | opened hopen hflag hkept hcompletions hrecords =>
    rw [hend] at hopen
    cases hopen
  | ended first now hended hstored hkept hemitted herror hrecords =>
    rw [← hk] at hkept herror
    rw [← hc] at hemitted
    exact .ended first now hended hstored hkept hemitted herror hrecords

/-- An error that fills the cell of an ended span stays invisible. -/
theorem SpanInvariant.filledLate (h : SpanInvariant deeds records span)
    (hend : span.shared.ended = true)
    (hnone : span.shared.stored = none) (fault : Fault) :
    SpanInvariant deeds records
      { span with shared := { span.shared with stored := some fault } } := by
  cases h with
  | opened hopen hflag hkept hcompletions hrecords =>
    rw [hend] at hopen
    cases hopen
  | ended own now hended hstored hkept hemitted herror hrecords =>
    -- The flag is raised only over a full cell, and this one was empty.
    have hclear : span.shared.errored = false := by
      cases hflag : span.shared.errored with
      | false => rfl
      | true =>
        have hsome := hstored hflag
        rw [hnone] at hsome
        cases hsome
    have hsame : ({ span.shared with stored := some fault } : Shared).error? =
        span.shared.error? := by
      simp [Shared.error?, hclear]
    refine .ended own now hended (fun _ => rfl) hkept hemitted (hsame.trans herror) ?_
    rw [hsame]
    exact hrecords

/-- An error that fills the cell of an open span is kept. -/
theorem SpanInvariant.kept (h : SpanInvariant deeds records span)
    (hopen : span.shared.ended = false)
    (hnone : span.shared.stored = none) (fault : Fault) :
    SpanInvariant (deeds ++ [.recorded span.id fault true]) records
      { span with shared := ⟨some fault, true, false⟩ } := by
  cases h with
  | ended own now hended => simp [hopen] at hended
  | opened hopen hflag hkept hcompletions hrecords =>
    refine .opened rfl rfl ?_ ?_ hrecords
    · rw [hnone] at hkept
      show keptFaults span.id _ = [fault]
      rw [keptFaults_append, hkept]
      simp [keptFaults, Deed.keptFault?]
    · show completions span.id _ = []
      rw [completions_append, hcompletions]
      rfl

/-- The completion of an open span hands over the error that was kept, or else that
of its own. -/
theorem SpanInvariant.emitted (h : SpanInvariant deeds records span)
    (hopen : span.shared.ended = false)
    (own : Option Fault) (now : Moment) (shared : Shared) (hend : shared.ended = true)
    (hstored : shared.errored = true → shared.stored.isSome)
    (herror : shared.error? = span.shared.stored.or own) :
    SpanInvariant (deeds ++ [.completed span.id own true])
      (records ++ span.records shared.error? now)
      { span with shared } := by
  cases h with
  | ended own now hended => simp [hopen] at hended
  | opened hopen hflag hkept hcompletions hrecords =>
    have hk : keptFaults span.id (deeds ++ [.completed span.id own true]) =
        span.shared.stored.toList := by
      rw [keptFaults_append, hkept]
      simp [keptFaults, Deed.keptFault?]
    refine .ended own now hend hstored ?_ ?_ ?_ ?_
    · show (keptFaults span.id _).length ≤ 1
      rw [hk]
      cases span.shared.stored <;> simp
    · show (completions span.id _).filter (·.2) = _
      rw [completions_append, hcompletions]
      simp [completions, Deed.completion?]
    · show _ = (keptFaults span.id _).head?.or own
      rw [hk, herror]
      cases span.shared.stored <;> rfl
    · exact ⟨records, [], by simp; rfl, by simpa using hrecords⟩

/-! ## The accesses of a call that nothing comes between -/

/-- Where a call with an error stands when it has read whether the span has ended and
has turned what it was given into an error. The span may have ended since. -/
inductive Stage.Checked (fault : Fault) (completes : Bool) (shared : Shared) : Stage → Prop where
  | passed : Checked fault completes shared (.store fault completes)
  | ended (hend : shared.ended = true) :
    Checked fault completes shared (.afterError false completes)

/-- An offered error is kept exactly if the span is open and its cell empty. -/
theorem SpanInvariant.record (h : SpanInvariant deeds records span) {fault : Fault} {stage : Stage}
    (hstage : stage.Checked fault false span.shared) :
    SpanInvariant
      (deeds ++ [.recorded span.id fault (span.shared.advance stage stage.rank).stage.kept])
      records { span with shared := (span.shared.advance stage stage.rank).shared } := by
  cases hstage with
  | ended hend => exact h.refused fault
  | passed =>
    cases hstored : span.shared.stored with
    | some taken =>
      simpa [Shared.advance, Shared.step, hstored, Stage.rank, Stage.afterError, Stage.kept]
        using h.refused fault
    | none =>
      cases hend : span.shared.ended with
      | true =>
        -- The calls made for the error have ended the span: the cell is filled in vain.
        have hlate := (h.filledLate hend hstored fault).refused fault
        simpa [Shared.advance, Shared.step, hstored, hend, Stage.rank, Stage.afterError, Stage.kept]
          using hlate
      | false =>
        have hkept := h.kept hend hstored fault
        have hclear : span.shared.errored = false := by
          rw [h.errored_of_open hend, hstored]
          rfl
        simpa [Shared.advance, Shared.step, hstored, hend, hclear, Stage.rank, Stage.afterError,
          Stage.kept] using hkept

/-- A completion emits exactly if the span is open. -/
theorem SpanInvariant.complete (h : SpanInvariant deeds records span) (now : Moment) :
    SpanInvariant (deeds ++ [.completed span.id none
        (span.shared.advance (.finish none) 1).stage.report?.isSome])
      (records ++ span.handedOver now (span.shared.advance (.finish none) 1).stage)
      { span with shared := (span.shared.advance (.finish none) 1).shared } := by
  cases hend : span.shared.ended with
  | true =>
    simpa [Shared.advance, Shared.step, hend, Stage.report?, Span.handedOver] using h.late hend none
  | false =>
    have hflag := h.errored_of_open hend
    have hemitted := h.emitted hend none now { span.shared with ended := true } rfl
      (fun he => by simpa [hflag] using he)
      (by cases hs : span.shared.stored <;> simp [Shared.error?, hflag, hs])
    simpa [Shared.advance, Shared.step, hend, Stage.report?, Span.handedOver, Shared.error?]
      using hemitted

/-- A completion with an error emits exactly if the span is open, and keeps its error
if there was none. -/
theorem SpanInvariant.completeWith (h : SpanInvariant deeds records span) {fault : Fault}
    {stage : Stage}
    (hstage : stage.Checked fault true span.shared) (now : Moment) :
    SpanInvariant (deeds ++ [.completed span.id (some fault)
        (span.shared.advance stage stage.rank).stage.report?.isSome])
      (records ++ span.handedOver now (span.shared.advance stage stage.rank).stage)
      { span with shared := (span.shared.advance stage stage.rank).shared } := by
  cases hstage with
  | ended hend =>
    simpa [Shared.advance, Shared.step, hend, Stage.rank, Stage.afterError, Stage.report?,
      Span.handedOver] using h.late hend (some fault)
  | passed =>
    cases hend : span.shared.ended with
    | true =>
      cases hstored : span.shared.stored with
      | some taken =>
        simpa [Shared.advance, Shared.step, hend, hstored, Stage.rank, Stage.afterError,
          Stage.report?, Span.handedOver] using h.late hend (some fault)
      | none =>
        have hlate := (h.filledLate hend hstored fault).late hend (some fault)
        simpa [Shared.advance, Shared.step, hend, hstored, Stage.rank, Stage.afterError,
          Stage.report?, Span.handedOver] using hlate
    | false =>
      have hflag := h.errored_of_open hend
      cases hstored : span.shared.stored with
      | some taken =>
        have hemitted := h.emitted hend (some fault) now { span.shared with ended := true } rfl
          (fun he => by simpa [hflag] using he) (by simp [Shared.error?, hflag, hstored])
        simpa [Shared.advance, Shared.step, hend, hstored, Stage.rank, Stage.afterError,
          Stage.report?, Span.handedOver, Shared.error?] using hemitted
      | none =>
        have hemitted := h.emitted hend (some fault) now ⟨some fault, true, true⟩ rfl
          (fun _ => rfl) (by simp [Shared.error?, hstored])
        simpa [Shared.advance, Shared.step, hend, hstored, hflag, Stage.rank, Stage.afterError,
          Stage.report?, Span.handedOver, Shared.error?] using hemitted

end Calls

end Instrumentation.Telemetry
