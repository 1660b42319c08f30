import Instrumentation.Telemetry.Access
import Instrumentation.Telemetry.Name
import Instrumentation.Telemetry.Sink
/-
  Spans

  A span is one traced invocation: it is started, may be given an error, and is
  completed once. Completion hands its records to a sink and contains a failure of
  the sink. A session is the open spans together with the sink. To turn what a
  caller reports into an error may itself make calls on the spans of the session;
  they run after the first access of the call and before the others.
-/

namespace Instrumentation.Telemetry

open Time (Timestamp Moment)

/-- A traced invocation. -/
structure Span where
  id : String
  identity : String
  /-- The reading of the steady clock when it started. -/
  started : Nat
  timestamp : Timestamp
  shared : Shared := {}
  deriving Repr

namespace Span

def isEnded (span : Span) : Bool := span.shared.ended

/-- Whether completion reports an error. -/
def hasError (span : Span) : Bool := span.shared.errored

def error? (span : Span) : Option Fault := span.shared.error?

def event (id : String) (level : Log.Level) (message : String)
    (more : List (String × Log.Field) := []) : Log.Event :=
  { level, origin := .span, message, fields := ("span_id", .plain id) :: more }

/-- A description of a span; `started` is how its start is shown. -/
def describe (span : Span) (started : String) : String :=
  "SpanLifecycle \x7b span_id: " ++ Text.quoted span.id ++
    ", identity: " ++ Text.quoted span.identity ++
    ", started: " ++ started ++
    ", error: " ++
      (match span.error? with
      | some fault => "Some(" ++ Text.quoted fault.message ++ ")"
      | none => "None") ++
    ", ended: " ++ (if span.isEnded then "true" else "false") ++ " \x7d"

def dependency (span : Span) (name : String) (reported : Option Fault) (now : Moment) : Record :=
  .dependency
    { spanId := span.id
      name
      timestamp := span.timestamp
      duration := now.since span.started
      success := reported.isNone }

def exception (span : Span) (fault : Fault) (now : Moment) : Record :=
  .exception { spanId := span.id, timestamp := now.wall, fault }

variable {σ : Type}

/-- Hands one record to the sink and contains its failure. -/
def emit (sink : Sink σ) (id : String) (record : Record) : Effect σ Unit := do
  match ← (sink record).contained with
  | .ok () => pure ()
  | .error failure =>
    Effect.event (event id .error ("Telemetry sink failed: " ++ failure.text))

def deliver (sink : Sink σ) (span : Span) (reported : Option Fault) (now : Moment) :
    Effect σ Unit := do
  let name ← Effect.ofLogged (displayName span.identity)
  emit sink span.id (span.dependency name reported now)
  match reported with
  | none => pure ()
  | some fault => emit sink span.id (span.exception fault now)

end Span

/-- A call on the spans of a session. In a call with an error, `before` is what
turning the error into one does first. -/
inductive Call where
  | start (id identity : String) (started : Nat) (timestamp : Timestamp)
  | recordError (id : String) (before : List Call) (fault : Fault)
  | complete (id : String) (now : Moment)
  | completeWithError (id : String) (before : List Call) (fault : Fault) (now : Moment)

/-- The answer of a call; `inner` holds the answers of the calls it made itself. -/
inductive Reply where
  | started
  /-- There is no span of that name. -/
  | unknownSpan
  /-- Whether the error is the one that completion reports. -/
  | recorded (inner : List Reply) (kept : Bool)
  /-- Whether this call completed the span. -/
  | completed (inner : List Reply) (emitted : Bool)

/-- The open spans, the latest first, and the state of the sink. -/
structure Session (σ : Type) where
  spans : List Span
  sink : σ

namespace Session

variable {σ : Type}

/-- The latest span with an id. -/
def span? (session : Session σ) (id : String) : Option Span :=
  session.spans.find? (·.id == id)

def changeFirst (id : String) (f : Span → Span) : List Span → List Span
  | [] => []
  | span :: rest => if span.id == id then f span :: rest else span :: changeFirst id f rest

def setShared (session : Session σ) (id : String) (shared : Shared) : Session σ :=
  { session with spans := changeFirst id (fun span => { span with shared }) session.spans }

def start (session : Session σ) (span : Span) : Session σ :=
  { session with spans := span :: session.spans }

def onSink {α : Type} (x : Effect σ α) : Effect (Session σ) α :=
  Effect.onPart (·.sink) (fun session sink => { session with sink }) x

def logRemarks (id : String) : List Remark → Effect (Session σ) Unit
  | [] => pure ()
  | remark :: rest => do
    Effect.event (Span.event id .debug remark.text)
    logRemarks id rest

/-- Makes up to `n` accesses of a call on a span. -/
def access (n : Nat) (span : Span) (stage : Stage) : Effect (Session σ) Stage := do
  let shared := (((← Effect.state).span? span.id).getD span).shared
  let progress := shared.advance stage n
  Effect.change (·.setShared span.id progress.shared)
  logRemarks span.id progress.remarks
  return progress.stage

/-- The answer of a completion; the call that ended the span hands over its records. -/
def conclude (sink : Sink σ) (span : Span) (inner : List Reply) (now : Moment)
    (stage : Stage) : Effect (Session σ) Reply :=
  match stage.report? with
  | some reported => do
    onSink (span.deliver sink reported now)
    return .completed inner true
  | none => return .completed inner false

mutual

def call (sink : Sink σ) : Call → Effect (Session σ) Reply
  | .start id identity started timestamp => do
    Effect.change (·.start { id, identity, started, timestamp })
    return .started
  | .complete id now => do
    match (← Effect.state).span? id with
    | none => return .unknownSpan
    | some span =>
      let stage ← access 1 span (.finish none)
      conclude sink span [] now stage
  | .recordError id before fault => do
    match (← Effect.state).span? id with
    | none => return .unknownSpan
    | some span =>
      let stage ← access 1 span (.check fault false)
      let inner ← if stage.stores then calls sink before else pure []
      let stage ← access stage.rank span stage
      return .recorded inner stage.kept
  | .completeWithError id before fault now => do
    match (← Effect.state).span? id with
    | none => return .unknownSpan
    | some span =>
      let stage ← access 1 span (.check fault true)
      let inner ← if stage.stores then calls sink before else pure []
      let stage ← access stage.rank span stage
      conclude sink span inner now stage

def calls (sink : Sink σ) : List Call → Effect (Session σ) (List Reply)
  | [] => return []
  | c :: rest => do
    let reply ← call sink c
    return reply :: (← calls sink rest)

end

/-- What is logged when a span is given up. -/
def dropEvents (span : Span) : List Log.Event :=
  if span.isEnded then []
  else [Span.event span.id .debug "Span dropped without completion"
    [("identity", .plain span.identity)]]

/-- Gives up the latest span with an id. -/
def drop (session : Session σ) (id : String) : Logged (Session σ) :=
  match session.span? id with
  | none => pure session
  | some span => ⟨{ session with spans := session.spans.eraseP (·.id == id) }, dropEvents span⟩

/-- What is logged when all open spans are given up, the oldest first. -/
def dropAll (session : Session σ) : List Log.Event :=
  session.spans.reverse.flatMap dropEvents

/-- A description of what starts spans. -/
def describe (_ : Session σ) : String := "SpanFactory \x7b .. \x7d"

end Session

end Instrumentation.Telemetry
