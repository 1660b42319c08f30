import Instrumentation.Proofs.Guard.Running
import Instrumentation.Proofs.Telemetry.History
/-
  Watching a sink

  A sink may do anything with a record: take it, fail with or without a text, ask for
  a shutdown, and log what it likes. To say what it was handed, a watched sink writes
  every handover down beside the state of its own.

  What is proved, for every sink:
    1. `run_call_watched` — watching a sink changes nothing that a call does.
    2. `run_deliver` — the records of a completed span are handed over in order up to a
       request to shut down, which leaves the delivery as it came. An ordinary failure
       is logged once and passed over.
    3. `run_access`, `run_conclude` — what the parts of a call come to with their events.
-/

namespace Instrumentation.Telemetry

open Guard (Outcome Payload Recovered)
open Time (Moment)

/-! ## Handovers -/

/-- A record that a sink was handed, how the sink went on, and what it logged. -/
structure Handover where
  record : Record
  outcome : Outcome Unit
  events : List Log.Event

/-- The event that an ordinary failure of the sink was contained. -/
def sinkFailed (id : String) (failure : Recovered) : Log.Event :=
  Span.event id .error ("Telemetry sink failed: " ++ failure.text)

namespace Handover

/-- Whether the sink asked for a shutdown. -/
def stops (h : Handover) : Bool := decide (h.outcome = .unwound .termination)

/-- The ordinary failure of the sink, if it failed so. -/
def failure? (h : Handover) : Option Recovered :=
  match h.outcome with
  | .returned () => none
  | .unwound payload => payload.recovered?

/-- What is logged over a handover: what the sink logs, and an ordinary failure. -/
def logged (id : String) (h : Handover) : List Log.Event :=
  h.events ++ (h.failure?.map (sinkFailed id)).toList

end Handover

/-- The state of a watched sink. -/
structure Watched (σ : Type) where
  own : σ
  handovers : List Handover

variable {σ : Type}

/-- Writes down every handover to a sink. -/
def Sink.watched (sink : Sink σ) : Sink (Watched σ) := fun record watched =>
  match sink record watched.own with
  | ⟨(outcome, own), events⟩ =>
    ⟨(outcome, ⟨own, watched.handovers ++ [⟨record, outcome, events⟩]⟩), events⟩

/-- The handovers that came of records which were to be handed over in order, and how
that ended. -/
inductive Delivered : List Record → List Handover → Outcome Unit → Prop where
  | done : Delivered [] [] (.returned ())
  /-- The sink took the record, or failed in the ordinary way: the next one is due. -/
  | goesOn {h : Handover} {records : List Record} {handed : List Handover}
      {result : Outcome Unit} (hgo : h.stops = false) (hrest : Delivered records handed result) :
      Delivered (h.record :: records) (h :: handed) result
  /-- No record is handed over after a request to shut down. -/
  | stopped {h : Handover} (records : List Record) (hstop : h.stops = true) :
      Delivered (h.record :: records) [h] (.unwound .termination)

theorem Delivered.mem_records {records : List Record} {handed : List Handover}
    {result : Outcome Unit} (hdelivered : Delivered records handed result) {h : Handover}
    (hmem : h ∈ handed) : h.record ∈ records := by
  induction hdelivered with
  | done => cases hmem
  | goesOn hgo hrest ih =>
    rcases List.mem_cons.1 hmem with rfl | hmem
    · exact List.mem_cons_self
    · exact List.mem_cons_of_mem _ (ih hmem)
  | stopped records hstop =>
    rw [List.mem_singleton.1 hmem]
    exact List.mem_cons_self

/-! ## Watching changes nothing -/

/-- Two computations that answer, log and leave the same, but for what the state of the
first holds besides. -/
def Unseen {τ τ' α : Type} (view : τ → τ') (x : Effect τ α) (y : Effect τ' α) : Prop :=
  ∀ t, y.run (view t) =
    ⟨((x.run t).value.1, view (x.run t).value.2), (x.run t).events⟩

namespace Unseen

variable {τ τ' α β : Type} {view : τ → τ'}

theorem pure (a : α) : Unseen view (Pure.pure a) (Pure.pure a) := fun _ => rfl

theorem event (e : Log.Event) : Unseen view (Effect.event e) (Effect.event e) := fun _ => rfl

theorem ofLogged (x : Logged α) : Unseen view (Effect.ofLogged x) (Effect.ofLogged x) :=
  fun _ => rfl

theorem bind {x : Effect τ α} {y : Effect τ' α} {f : α → Effect τ β} {g : α → Effect τ' β}
    (h : Unseen view x y) (hfg : ∀ a, Unseen view (f a) (g a)) :
    Unseen view (x >>= f) (y >>= g) := by
  intro t
  have hy := h t
  rcases hx : x.run t with ⟨⟨outcome, after⟩, events⟩
  rw [hx] at hy
  cases outcome with
  | returned a => rw [Effect.run_bind_returned hx, Effect.run_bind_returned hy, hfg a after]
  | unwound p => rw [Effect.run_bind_unwound hx, Effect.run_bind_unwound hy]

theorem state_bind {f : τ → Effect τ β} {g : τ' → Effect τ' β}
    (h : ∀ t, Unseen view (f t) (g (view t))) :
    Unseen view (Effect.state >>= f) (Effect.state >>= g) := by
  intro t
  rw [Effect.run_bind_returned (x := Effect.state) rfl,
    Effect.run_bind_returned (x := Effect.state) rfl, h t t]

theorem change {f : τ → τ} {g : τ' → τ'} (h : ∀ t, view (f t) = g (view t)) :
    Unseen view (Effect.change f) (Effect.change g) := by
  intro t
  show Logged.mk (Outcome.returned (), g (view t)) [] = ⟨(.returned (), view (f t)), []⟩
  rw [h]

theorem contained {x : Effect τ α} {y : Effect τ' α} (h : Unseen view x y) :
    Unseen view x.contained y.contained := by
  intro t
  have hy := h t
  rcases hx : x.run t with ⟨⟨outcome, after⟩, events⟩
  rw [hx] at hy
  rw [Effect.run_contained hx, Effect.run_contained hy]

end Unseen

namespace Session

variable (sink : Sink σ)

/-- A session without what is written down beside the sink. -/
def unwatched (session : Session (Watched σ)) : Session σ :=
  { spans := session.spans, sink := session.sink.own }

theorem unseen_watched (record : Record) :
    Unseen Watched.own (sink.watched record) (sink record) := fun _ => rfl

theorem unseen_emit (id : String) (record : Record) :
    Unseen Watched.own (Span.emit sink.watched id record) (Span.emit sink id record) := by
  refine (unseen_watched sink record).contained.bind ?_
  rintro (failure | _)
  · exact .event _
  · exact .pure _

theorem unseen_deliver (span : Span) (reported : Option Fault) (now : Moment) :
    Unseen Watched.own (span.deliver sink.watched reported now)
      (span.deliver sink reported now) := by
  refine (Unseen.ofLogged _).bind fun name => (unseen_emit sink _ _).bind fun _ => ?_
  cases reported with
  | none => exact .pure _
  | some fault => exact unseen_emit sink _ _

theorem unseen_onSink {α : Type} {x : Effect (Watched σ) α} {y : Effect σ α}
    (h : Unseen Watched.own x y) : Unseen unwatched (onSink x) (onSink y) := by
  intro session
  have hy := h session.sink
  rcases hx : x.run session.sink with ⟨⟨outcome, after⟩, events⟩
  rw [hx] at hy
  rw [onSink, onSink, Effect.run_onPart hx, Effect.run_onPart (t := session.unwatched) hy]
  rfl

theorem unseen_logRemarks (id : String) : ∀ remarks : List Remark,
    Unseen (@unwatched σ) (logRemarks id remarks) (logRemarks id remarks)
  | [] => .pure ()
  | _ :: rest => (Unseen.event _).bind fun _ => unseen_logRemarks id rest

theorem unseen_access (n : Nat) (span : Span) (stage : Stage) :
    Unseen (@unwatched σ) (access n span stage) (access n span stage) :=
  .state_bind fun _ => .bind (.change fun _ => rfl) fun _ =>
    (unseen_logRemarks _ _).bind fun _ => .pure _

theorem unseen_conclude (span : Span) (inner : List Reply) (now : Moment) (stage : Stage) :
    Unseen unwatched (conclude sink.watched span inner now stage)
      (conclude sink span inner now stage) := by
  unfold conclude
  cases stage.report? with
  | none => exact .pure _
  | some reported =>
    exact (unseen_onSink (unseen_deliver sink span reported now)).bind fun _ => .pure _

theorem unseen_lookup {id : String} {found : Span → Effect (Session (Watched σ)) Reply}
    {foundPlain : Span → Effect (Session σ) Reply}
    (h : ∀ span, Unseen unwatched (found span) (foundPlain span)) :
    Unseen unwatched
      (do
        match (← Effect.state).span? id with
        | none => return .unknownSpan
        | some span => found span)
      (do
        match (← Effect.state).span? id with
        | none => return .unknownSpan
        | some span => foundPlain span) := by
  refine .state_bind fun session => ?_
  show Unseen _ _ (match session.span? id with | none => _ | some span => _)
  cases session.span? id with
  | none => exact .pure _
  | some span => exact h span

theorem unseen_turned {α : Type} {c : Prop} [Decidable c] {before : List Call}
    (hbefore : Unseen unwatched (calls sink.watched before) (calls sink before))
    {f : List Reply → Effect (Session (Watched σ)) α} {g : List Reply → Effect (Session σ) α}
    (hfg : ∀ inner, Unseen unwatched (f inner) (g inner)) :
    Unseen unwatched (if c then calls sink.watched before >>= f else pure [] >>= f)
      (if c then calls sink before >>= g else pure [] >>= g) := by
  split
  · exact hbefore.bind hfg
  · exact (Unseen.pure _).bind hfg

mutual

theorem unseen_call : ∀ c : Call, Unseen unwatched (call sink.watched c) (call sink c)
  | .start id identity started timestamp => by
    rw [call, call]
    exact .bind (.change fun _ => rfl) fun _ => .pure _
  | .complete id now => by
    rw [call, call]
    exact unseen_lookup fun span => (unseen_access _ _ _).bind fun stage =>
      unseen_conclude sink span [] now stage
  | .recordError id before fault => by
    rw [call, call]
    exact unseen_lookup fun span => (unseen_access _ _ _).bind fun stage =>
      unseen_turned sink (unseen_calls before) fun inner => (unseen_access _ _ _).bind fun _ =>
        .pure _
  | .completeWithError id before fault now => by
    rw [call, call]
    exact unseen_lookup fun span => (unseen_access _ _ _).bind fun stage =>
      unseen_turned sink (unseen_calls before) fun inner => (unseen_access _ _ _).bind fun stage =>
        unseen_conclude sink span inner now stage

theorem unseen_calls : ∀ cs : List Call, Unseen unwatched (calls sink.watched cs) (calls sink cs)
  | [] => .pure []
  | c :: rest => by
    rw [calls, calls]
    exact (unseen_call c).bind fun _ => (unseen_calls rest).bind fun _ => .pure _

end

theorem run_call_watched (c : Call) (session : Session (Watched σ)) :
    (call sink c).run session.unwatched =
      ⟨(((call sink.watched c).run session).value.1,
          ((call sink.watched c).run session).value.2.unwatched),
        ((call sink.watched c).run session).events⟩ :=
  unseen_call sink c session

end Session

/-! ## Handing records over -/

/-- One record is handed over once; only a request to shut down leaves the guard. -/
theorem run_emit (sink : Sink σ) (id : String) (record : Record) (watched : Watched σ) :
    ∃ outcome events own,
      (Span.emit sink.watched id record).run watched =
        ⟨(if (Handover.mk record outcome events).stops then .unwound .termination
            else .returned (),
          ⟨own, watched.handovers ++ [⟨record, outcome, events⟩]⟩),
          Handover.logged id ⟨record, outcome, events⟩⟩ := by
  rcases hrun : sink record watched.own with ⟨⟨outcome, own⟩, events⟩
  refine ⟨outcome, events, own, ?_⟩
  have hwatched : (sink.watched record).run watched =
      ⟨(outcome, ⟨own, watched.handovers ++ [⟨record, outcome, events⟩]⟩), events⟩ := by
    rw [Effect.run, Sink.watched, hrun]
  have hcontained := Effect.run_contained hwatched
  cases outcome with
  | returned _ => exact Effect.run_bind hcontained rfl
  | unwound payload =>
    cases payload with
    | termination =>
      rw [Span.emit, Effect.run_bind_unwound hcontained]
      simp [Handover.stops, Handover.logged, Handover.failure?, Payload.recovered?]
    | literal _ | text _ | other => exact Effect.run_bind hcontained rfl

/-- The records of a completed span are handed over in order, up to a request to shut
down. -/
theorem run_deliver (sink : Sink σ) (span : Span) (reported : Option Fault) (now : Moment)
    (watched : Watched σ) :
    ∃ handed result own, Delivered (span.records reported now) handed result ∧
      (span.deliver sink.watched reported now).run watched =
        ⟨(result, ⟨own, watched.handovers ++ handed⟩),
          (displayName span.identity).events ++ handed.flatMap (Handover.logged span.id)⟩ := by
  have hname : (Effect.ofLogged (displayName span.identity)).run watched =
      ⟨(.returned (displayName span.identity).value, watched),
        (displayName span.identity).events⟩ := rfl
  obtain ⟨outcome, events, own, hrun⟩ := run_emit sink span.id
    (span.dependency (displayName span.identity).value reported now) watched
  let first : Handover :=
    ⟨span.dependency (displayName span.identity).value reported now, outcome, events⟩
  cases hstops : first.stops with
  | true =>
    -- The request to shut down passes the guard, so nothing behind it is run.
    rw [hstops] at hrun
    refine ⟨[first], _, own, .stopped _ hstops, Effect.run_bind hname ?_⟩
    rw [Effect.run_bind_unwound hrun, List.flatMap_singleton]
  | false =>
    rw [hstops] at hrun
    cases reported with
    | none =>
      refine ⟨[first], _, own, .goesOn hstops .done, Effect.run_bind hname ?_⟩
      rw [List.flatMap_singleton]
      exact Effect.run_bind_pure hrun _
    | some fault =>
      -- The first record was dealt with, in whatever way: the error is handed over too.
      obtain ⟨outcome', events', own', hrun'⟩ := run_emit sink span.id
        (span.exception fault now) ⟨own, watched.handovers ++ [first]⟩
      let second : Handover := ⟨span.exception fault now, outcome', events'⟩
      have hbehind : Delivered [second.record] [second]
          (if second.stops then .unwound .termination else .returned ()) := by
        cases hstops' : second.stops with
        | true => exact .stopped _ hstops'
        | false => exact .goesOn hstops' .done
      refine ⟨[first, second], _, own', .goesOn hstops hbehind, Effect.run_bind hname ?_⟩
      have h := Effect.run_bind (f := fun _ => Span.emit sink.watched span.id _) hrun hrun'
      rw [List.append_assoc] at h
      simpa using h

namespace Session

/-- The events about accesses to a span. -/
def remarkEvents (id : String) (remarks : List Remark) : List Log.Event :=
  remarks.map fun remark => Span.event id .debug remark.text

theorem run_logRemarks (id : String) (session : Session σ) : ∀ remarks : List Remark,
    (logRemarks id remarks).run session = ⟨(.returned (), session), remarkEvents id remarks⟩
  | [] => rfl
  | remark :: rest => by
    have hevent : (Effect.event (Span.event id .debug remark.text)).run session =
        ⟨(.returned (), session), [Span.event id .debug remark.text]⟩ := rfl
    rw [logRemarks, Effect.run_bind_returned hevent, run_logRemarks id session rest]
    rfl

theorem run_access (session : Session σ) (n : Nat) (span : Span) (stage : Stage) :
    (access n span stage).run session =
      ⟨(.returned (session.progress n span stage).stage,
          session.setShared span.id (session.progress n span stage).shared),
        remarkEvents span.id (session.progress n span stage).remarks⟩ := by
  have hlog := run_logRemarks span.id
    (session.setShared span.id (session.progress n span stage).shared)
    (session.progress n span stage).remarks
  exact Effect.run_bind (x := Effect.state) rfl <|
    Effect.run_bind (x := Effect.change _) rfl <| Effect.run_bind_pure hlog _

/-- The check of a call with an error changes nothing. -/
theorem run_check {session : Session σ} {span : Span}
    (hspan : session.span? span.id = some span) (fault : Fault) (completes : Bool) :
    (access 1 span (.check fault completes)).run session =
      ⟨(.returned (span.shared.step (.check fault completes)).stage, session),
        remarkEvents span.id (span.shared.step (.check fault completes)).remarks⟩ := by
  have hsame : (span.shared.step (.check fault completes)).shared = span.shared := by
    rw [Shared.step]
    split <;> rfl
  have hprogress : session.progress 1 span (.check fault completes) =
      span.shared.step (.check fault completes) := by
    rw [progress_eq hspan]
    simp [Shared.advance]
  rw [run_access, hprogress, hsame, setShared_self hspan]

/-- The check of a call with an error, and the calls that turning what was given into an
error makes. -/
def turned {α : Type} (sink : Sink σ) (span : Span) (before : List Call) (fault : Fault)
    (completes : Bool) (rest : Stage → List Reply → Effect (Session σ) α) :
    Effect (Session σ) α := do
  let stage ← access 1 span (.check fault completes)
  let inner ← if stage.stores then calls sink before else pure []
  rest stage inner

section Calls

variable {α : Type} {sink : Sink σ} {session : Session σ} {span : Span} (before : List Call)
  (fault : Fault) (completes : Bool) (rest : Stage → List Reply → Effect (Session σ) α)

theorem run_complete (hspan : session.span? span.id = some span) (now : Moment) :
    (call sink (.complete span.id now)).run session =
      (access 1 span (.finish none) >>= fun stage =>
        conclude sink span [] now stage).run session := by
  rw [call, Effect.run_bind_returned (x := Effect.state) rfl]
  simp only [hspan, List.nil_append]

theorem run_completeWithError (hspan : session.span? span.id = some span) (now : Moment) :
    (call sink (.completeWithError span.id before fault now)).run session =
      (turned sink span before fault true fun stage inner =>
        access stage.rank span stage >>= fun stage =>
          conclude sink span inner now stage).run session := by
  rw [call, Effect.run_bind_returned (x := Effect.state) rfl]
  simp only [hspan, List.nil_append]
  rfl

/-- On an open span the calls are made, and the error is stored behind them. -/
theorem run_turned_of_open (hspan : session.span? span.id = some span)
    (hopen : span.shared.ended = false) :
    (turned sink span before fault completes rest).run session =
      (calls sink before >>= rest (.store fault completes)).run session := by
  have hcheck := run_check hspan fault completes
  have hstep : span.shared.step (.check fault completes) =
      ⟨span.shared, .store fault completes, []⟩ := by
    simp [Shared.step, hopen]
  rw [hstep] at hcheck
  exact Effect.run_bind hcheck rfl

/-- On an ended span nothing is made of what was given. -/
theorem run_turned_of_ended (hspan : session.span? span.id = some span)
    (hend : span.shared.ended = true) {value : Outcome α × Session σ} {events : List Log.Event}
    (hrest : (rest (.afterError false completes) []).run session = ⟨value, events⟩) :
    (turned sink span before fault completes rest).run session =
      ⟨value, remarkEvents span.id [.errorAfterEnd] ++ events⟩ := by
  have hcheck := run_check hspan fault completes
  have hstep : span.shared.step (.check fault completes) =
      ⟨span.shared, .afterError false completes, [.errorAfterEnd]⟩ := by
    simp [Shared.step, hend]
  rw [hstep] at hcheck
  have hidle : (Stage.afterError false completes).stores = false := by
    cases completes <;> rfl
  refine Effect.run_bind hcheck ?_
  rw [hidle]
  exact hrest

end Calls

theorem run_conclude (sink : Sink σ) (session : Session (Watched σ)) (span : Span)
    (inner : List Reply) (now : Moment) {stage : Stage} {reported : Option Fault}
    (hreport : stage.report? = some reported) :
    ∃ handed result own, Delivered (span.records reported now) handed result ∧
      (conclude sink.watched span inner now stage).run session =
        ⟨(result.andThen fun _ => .returned (.completed inner true),
            { session with sink := ⟨own, session.sink.handovers ++ handed⟩ }),
          (displayName span.identity).events ++ handed.flatMap (Handover.logged span.id)⟩ := by
  obtain ⟨handed, result, own, hdelivered, hrun⟩ := run_deliver sink span reported now session.sink
  refine ⟨handed, result, own, hdelivered, ?_⟩
  have hpart : (onSink (span.deliver sink.watched reported now)).run session =
      ⟨(result, { session with sink := ⟨own, session.sink.handovers ++ handed⟩ }),
        (displayName span.identity).events ++ handed.flatMap (Handover.logged span.id)⟩ :=
    Effect.run_onPart hrun
  rw [conclude, hreport]
  cases result with
  | returned _ =>
    exact Effect.run_bind_pure hpart _
  | unwound p =>
    exact Effect.run_bind_unwound hpart _

end Session

end Instrumentation.Telemetry
