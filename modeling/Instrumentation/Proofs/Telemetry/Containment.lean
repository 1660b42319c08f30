import Instrumentation.Proofs.Telemetry.Watching
/-
  Completion and the failures of a sink

  The call that completes a span ends it first and hands its records over then, each
  under a guard. So whatever the sink does with one of them, the span is ended, and
  no other call hands over anything of it.

  What is proved, for every sink and every history of calls on spans with ids of their
  own:
    1. `stays_advance`, `closed_advance` — what accesses make of an ended span (nothing
       that is visible), and the last accesses of a completion of an open one.
    2. `proceeds_call`, `proceeds_calls` — whether a call returns or unwinds: of an open
       span nothing was handed over, of an ended one its records in order, and an ended
       span stays as it is.
    3. `completes_close` — what the call comes to that completes a span: which records
       are handed over, what it answers, what it logs and how it leaves the span.
    4. `completion_is_contained` — the two together, for every span of every session
       that a history may come to.

  Calls that are made while an error is turned into one need no word of their own: the
  call that makes them has changed nothing yet, so they are made in a session that a
  history without it comes to as well (`Later.calls`).
-/

namespace Instrumentation.Telemetry

open Guard (Outcome Payload)
open Time (Moment)

variable {σ : Type}

/-! ## What accesses make of what calls share -/

theorem Stage.report?_afterError (kept completes : Bool) :
    (afterError kept completes).report? = none := by
  cases completes <;> rfl

namespace Shared

/-- What the calls on a span may still change when it has ended. -/
structure Stays (before after : Shared) : Prop where
  ended : after.ended = true
  errored : after.errored = before.errored
  error : after.error? = before.error?
  /-- The flag is raised over a full cell only. -/
  full : after.errored = true → after.stored.isSome

theorem Stays.trans {first second third : Shared} (h : first.Stays second)
    (h' : second.Stays third) : first.Stays third :=
  ⟨h'.ended, h'.errored.trans h.errored, h'.error.trans h.error, h'.full⟩

theorem Stays.refl {shared : Shared} (hend : shared.ended = true)
    (hfull : shared.errored = true → shared.stored.isSome) : shared.Stays shared :=
  ⟨hend, rfl, rfl, hfull⟩

/-- No access to an ended span changes what completion has reported, or completes the
span once more. -/
theorem stays_step {shared : Shared} (hend : shared.ended = true)
    (hfull : shared.errored = true → shared.stored.isSome) {stage : Stage}
    (hreport : stage.report? = none) :
    shared.Stays (shared.step stage).shared ∧ (shared.step stage).stage.report? = none := by
  have hstays := Stays.refl hend hfull
  cases stage with
  | check fault completes =>
    simp only [step, hend, if_true]
    exact ⟨hstays, Stage.report?_afterError ..⟩
  | store fault completes =>
    cases hstored : shared.stored with
    | some taken =>
      simp only [step, hstored]
      exact ⟨hstays, Stage.report?_afterError ..⟩
    | none =>
      -- The cell is filled late. The flag is down over an empty cell, so the error stays
      -- invisible.
      have hclear : shared.errored = false := by
        cases herrored : shared.errored with
        | false => rfl
        | true => simp [hstored, herrored] at hfull
      refine ⟨?_, by simp [step, hstored, Stage.report?]⟩
      constructor <;> simp [step, hstored, hend, hclear, error?]
  | publish completes =>
    simp only [step, hend, Bool.or_true, if_true]
    exact ⟨hstays, Stage.report?_afterError ..⟩
  | finish kept => simp [step, hend, hstays, Stage.report?]
  | recorded kept => exact ⟨hstays, rfl⟩
  | completed kept completion => exact ⟨hstays, hreport⟩

theorem stays_advance {shared : Shared} (hend : shared.ended = true)
    (hfull : shared.errored = true → shared.stored.isSome) {stage : Stage}
    (hreport : stage.report? = none) (n : Nat) :
    shared.Stays (shared.advance stage n).shared ∧
      (shared.advance stage n).stage.report? = none := by
  induction n generalizing shared stage with
  | zero => exact ⟨.refl hend hfull, hreport⟩
  | succ n ih =>
    obtain ⟨hstep, hreport'⟩ := stays_step hend hfull hreport
    obtain ⟨hlater, hlast⟩ := ih hstep.ended hstep.full hreport'
    exact ⟨hstep.trans hlater, hlast⟩

/-- What a span that is still open has in its cell is visible. -/
structure Open (shared : Shared) : Prop where
  ended : shared.ended = false
  errored : shared.errored = shared.stored.isSome

theorem Open.error?_eq {shared : Shared} (h : shared.Open) : shared.error? = shared.stored := by
  cases hstored : shared.stored <;> simp [error?, h.errored, hstored]

theorem open_advance_store {shared : Shared} (h : shared.Open) (fault : Fault) :
    (shared.advance (.store fault false) 3).shared.Open ∧
      (shared.advance (.store fault false) 3).stage.report? = none := by
  obtain ⟨hopen, hflag⟩ := h
  cases hstored : shared.stored with
  | some taken =>
    refine ⟨⟨?_, ?_⟩, ?_⟩ <;>
      simp [advance, step, hopen, hflag, hstored, Stage.afterError, Stage.report?]
  | none =>
    refine ⟨⟨?_, ?_⟩, ?_⟩ <;>
      simp [advance, step, hopen, hflag, hstored, Stage.afterError, Stage.report?]

/-- The access from which a completion goes on when its error, if it has one, is there. -/
def closing : Option Fault → Stage
  | none => .finish none
  | some fault => .store fault true

/-- What the last accesses of a completion come to that ends its span. -/
structure Closed (shared : Shared) (own : Option Fault) (progress : Progress) : Prop where
  ended : progress.shared.ended = true
  error : progress.shared.error? = shared.error?.or own
  full : progress.shared.errored = true → progress.shared.stored.isSome
  report : progress.stage.report? = some (shared.error?.or own)
  /-- An error of the completion's own that comes second is remarked upon. -/
  remarks : progress.remarks = (own.bind fun _ => shared.error?).toList.map fun _ => .errorTaken

theorem closed_advance {shared : Shared} (h : shared.Open) (own : Option Fault) :
    shared.Closed own (shared.advance (closing own) (closing own).rank) := by
  have herror := h.error?_eq
  obtain ⟨hopen, hflag⟩ := h
  cases own with
  | none =>
    constructor <;>
      simp [advance, step, closing, Stage.rank, hopen, hflag, error?, Stage.report?]
  | some fault =>
    cases hstored : shared.stored with
    | some taken =>
      constructor <;>
        simp [advance, step, closing, Stage.rank, hopen, hflag, hstored, error?,
          Stage.afterError, Stage.report?]
    | none =>
      constructor <;>
        simp [advance, step, closing, Stage.rank, hopen, hflag, hstored, error?,
          Stage.afterError, Stage.report?]

end Shared

/-! ## The invariant of a span -/

/-- The handovers of the records of a span. -/
def about (id : String) (handovers : List Handover) : List Handover :=
  handovers.filter (·.record.spanId == id)

theorem about_append (id : String) (handovers more : List Handover) :
    about id (handovers ++ more) = about id handovers ++ about id more :=
  List.filter_append ..

theorem about_eq_nil {id : String} {handovers : List Handover}
    (h : ∀ handover ∈ handovers, handover.record.spanId ≠ id) : about id handovers = [] := by
  rw [about, List.filter_eq_nil_iff]
  intro handover hmem
  simpa using h handover hmem

theorem about_eq_self {id : String} {handovers : List Handover}
    (h : ∀ handover ∈ handovers, handover.record.spanId = id) : about id handovers = handovers := by
  rw [about, List.filter_eq_self]
  intro handover hmem
  simpa using h handover hmem

/-- Where a span stands with what was handed to the sink. -/
inductive Standing (handovers : List Handover) (span : Span) : Prop where
  /-- The span is open, and nothing was handed over of it. -/
  | opened (hopen : span.shared.Open) (hnone : about span.id handovers = [])
  /-- The span has ended. Its records, of which there is one for the error that is
  visible, were handed over in order. -/
  | ended (now : Moment) (result : Outcome Unit) (hended : span.shared.ended = true)
      (hfull : span.shared.errored = true → span.shared.stored.isSome)
      (hdelivered : Delivered (span.records span.error? now) (about span.id handovers) result)

namespace Standing

variable {handovers new : List Handover} {span : Span}

theorem isOpen (h : Standing handovers span) (hopen : span.shared.ended = false) :
    span.shared.Open ∧ about span.id handovers = [] := by
  cases h with
  | opened hshared hnone => exact ⟨hshared, hnone⟩
  | ended now result hended =>
    rw [hopen] at hended
    cases hended

theorem full (h : Standing handovers span) :
    span.shared.errored = true → span.shared.stored.isSome := by
  cases h with
  | opened hshared =>
    intro herrored
    rw [← hshared.errored, herrored]
  | ended now result hended hfull => exact hfull

theorem append (h : Standing handovers span)
    (hnew : ∀ handover ∈ new, handover.record.spanId ≠ span.id) :
    Standing (handovers ++ new) span := by
  have habout : about span.id (handovers ++ new) = about span.id handovers := by
    rw [about_append, about_eq_nil hnew, List.append_nil]
  cases h with
  | opened hshared hnone => exact .opened hshared (habout.trans hnone)
  | ended now result hended hfull hdelivered =>
    rw [← habout] at hdelivered
    exact .ended now result hended hfull hdelivered

theorem stays (h : Standing handovers span) (hend : span.shared.ended = true) {shared : Shared}
    (hstays : span.shared.Stays shared) : Standing handovers { span with shared } := by
  cases h with
  | opened hshared =>
    rw [hshared.ended] at hend
    cases hend
  | ended now result hended hfull hdelivered =>
    refine .ended now result hstays.ended hstays.full ?_
    show Delivered (span.records shared.error? now) _ _
    rw [hstays.error]
    exact hdelivered

/-- The completion of an open span hands its records over. -/
theorem close (h : Standing handovers span) (hopen : span.shared.ended = false)
    {own : Option Fault} {progress : Progress} (hclosed : span.shared.Closed own progress)
    {now : Moment} {result : Outcome Unit}
    (hdelivered : Delivered (span.records (span.error?.or own) now) new result) :
    Standing (handovers ++ new) { span with shared := progress.shared } := by
  refine .ended now result hclosed.ended hclosed.full ?_
  have hnew : ∀ handover ∈ new, handover.record.spanId = span.id := fun handover hmem =>
    Span.spanId_of_mem_records (hdelivered.mem_records hmem)
  show Delivered (span.records progress.shared.error? now) (about span.id (handovers ++ new)) _
  rw [about_append, (h.isOpen hopen).2, about_eq_self hnew, hclosed.error]
  exact hdelivered

end Standing

/-! ## What a call does to a session -/

/-- Every span stands somewhere, and every handover was of a span. -/
structure Sound (session : Session (Watched σ)) : Prop where
  standing : ∀ span ∈ session.spans, Standing session.sink.handovers span
  known : ∀ h ∈ session.sink.handovers, h.record.spanId ∈ ids session.spans

/-- An ended span of a session in a later one: nothing more was handed over of it. -/
structure Kept (session after : Session (Watched σ)) (span current : Span) : Prop where
  ended : current.isEnded = true
  hasError : current.hasError = span.hasError
  error : current.error? = span.error?
  handovers : about span.id after.sink.handovers = about span.id session.sink.handovers

/-- What holds from one session to a later one. -/
structure Proceeds (session after : Session (Watched σ)) : Prop where
  grown : Extends session.spans after.spans
  sound : (ids after.spans).Nodup → Sound session → Sound after
  kept : (ids after.spans).Nodup → Sound session → ∀ span ∈ session.spans, span.isEnded = true →
    ∀ current ∈ after.spans, current.id = span.id → Kept session after span current

namespace Proceeds

variable {session after later : Session (Watched σ)}

theorem refl (session : Session (Watched σ)) : Proceeds session session := by
  refine ⟨.refl _, fun _ h => h, ?_⟩
  intro hd _ span hspan hend current hcurrent hid
  have hfind := Session.find?_eq_of_mem hd hcurrent
  rw [hid, Session.find?_eq_of_mem hd hspan] at hfind
  obtain rfl := Option.some.inj hfind
  exact ⟨hend, rfl, rfl, rfl⟩

theorem trans (h : Proceeds session after) (h' : Proceeds after later) :
    Proceeds session later := by
  refine ⟨h.grown.trans h'.grown, ?_, ?_⟩
  · intro hd hsound
    exact h'.sound hd (h.sound (h'.grown.nodup hd) hsound)
  · intro hd hsound span hspan hend current hcurrent hid
    have hd' := h'.grown.nodup hd
    obtain ⟨middle, hmiddle, hbare⟩ := h.grown.exists_mem hspan
    have hid' := Span.id_eq hbare
    have hkept := h.kept hd' hsound span hspan hend middle hmiddle hid'
    have hkept' := h'.kept hd (h.sound hd' hsound) middle hmiddle hkept.ended current hcurrent
      (hid.trans hid'.symm)
    refine ⟨hkept'.ended, hkept'.hasError.trans hkept.hasError, hkept'.error.trans hkept.error, ?_⟩
    rw [← hid', hkept'.handovers, hid', hkept.handovers]

theorem touch (session : Session (Watched σ)) (own : σ) :
    Proceeds session { session with sink := { session.sink with own } } := by
  refine ⟨.refl _, fun _ h => ⟨h.standing, h.known⟩, ?_⟩
  intro hd hsound span hspan hend current hcurrent hid
  have hkept := (refl session).kept hd hsound span hspan hend current hcurrent hid
  exact ⟨hkept.ended, hkept.hasError, hkept.error, hkept.handovers⟩

/-- A span that is started under a new id stands open. -/
theorem start (session : Session (Watched σ)) {span : Span} (hfresh : span.shared = {}) :
    Proceeds session (session.start span) := by
  refine ⟨⟨[span.bare], rfl⟩, ?_, ?_⟩
  · intro hd hsound
    have hnew : span.id ∉ ids session.spans := (List.nodup_cons.1 hd).1
    refine ⟨?_, fun h hmem => List.mem_cons_of_mem _ (hsound.known h hmem)⟩
    intro s hs
    rcases List.mem_cons.1 hs with rfl | hs
    · refine .opened ⟨by rw [hfresh], by rw [hfresh]; rfl⟩ (about_eq_nil ?_)
      exact fun h hmem he => hnew (he ▸ hsound.known h hmem)
    · exact hsound.standing s hs
  · intro hd hsound s hs hend current hcurrent hid
    obtain ⟨hnew, hd⟩ := List.nodup_cons.1 hd
    rcases List.mem_cons.1 hcurrent with rfl | hcurrent
    · exact absurd (hid ▸ List.mem_map_of_mem hs) hnew
    · have hkept := (refl session).kept hd hsound s hs hend current hcurrent hid
      exact ⟨hkept.ended, hkept.hasError, hkept.error, hkept.handovers⟩

/-- Accesses to one span and the handover of its records, if the span's own invariant
survives them. -/
theorem step {span : Span} {shared : Shared} {handed : List Handover} (own : σ)
    (hspan : ∃ current ∈ session.spans, current.bare = span.bare)
    (hhanded : ∀ h ∈ handed, h.record.spanId = span.id)
    (hstanding : ∀ current, session.span? span.id = some current → current.bare = span.bare →
      Standing session.sink.handovers current →
      Standing (session.sink.handovers ++ handed) { current with shared } ∧
      (current.shared.ended = true → current.shared.Stays shared ∧ handed = [])) :
    Proceeds session
      { session.setShared span.id shared with
        sink := ⟨own, session.sink.handovers ++ handed⟩ } := by
  have hextends := session.extends_setShared span.id shared
  obtain ⟨current, hmem, hbare⟩ := hspan
  have hid := Span.id_eq hbare
  have hids : ids (session.setShared span.id shared).spans = ids session.spans := by
    rw [ids_eq, Session.setShared, Session.map_bare_changeFirst, ← ids_eq]
  have hfind : (ids session.spans).Nodup → session.span? span.id = some current := by
    intro hd
    rw [← hid]
    exact Session.find?_eq_of_mem hd hmem
  -- A span of the new session is the one that was changed, or another one as it was.
  have hcases : (ids session.spans).Nodup → ∀ s ∈ (session.setShared span.id shared).spans,
      s = { current with shared } ∨ s ∈ session.spans ∧ s.id ≠ current.id := by
    intro hd s hs
    rw [← hid] at hs
    exact Session.mem_changeFirst hd hmem hs
  refine ⟨hextends, ?_, ?_⟩
  · intro hd hsound
    have hd := hextends.nodup hd
    have hcurrent := (hstanding current (hfind hd) hbare (hsound.standing current hmem)).1
    constructor
    · intro s hs
      rcases hcases hd s hs with rfl | ⟨hs, hne⟩
      · exact hcurrent
      · refine (hsound.standing s hs).append fun h hmem he => hne ?_
        rw [← he, hhanded h hmem, hid]
    · intro h hh
      show _ ∈ ids (session.setShared span.id shared).spans
      rw [hids]
      rcases List.mem_append.1 hh with hh | hh
      · exact hsound.known h hh
      · rw [hhanded h hh, ← hid]
        exact List.mem_map_of_mem hmem
  · intro hd hsound s hs hend after hafter hsame
    have hd := hextends.nodup hd
    have hothers : s.id ≠ span.id →
        about s.id (session.sink.handovers ++ handed) = about s.id session.sink.handovers := by
      intro hne
      rw [about_append, about_eq_nil fun h hh he => hne (he.symm.trans (hhanded h hh)),
        List.append_nil]
    rcases hcases hd after hafter with rfl | ⟨hafter, hne⟩
    · -- The span that was changed had ended: it stays as it was.
      have hs' : session.span? s.id = some s := Session.find?_eq_of_mem hd hs
      have hids' : s.id = span.id := hsame.symm.trans hid
      rw [hids', hfind hd] at hs'
      obtain rfl := Option.some.inj hs'
      obtain ⟨hstays, rfl⟩ :=
        (hstanding current (hfind hd) hbare (hsound.standing current hmem)).2 hend
      refine ⟨hstays.ended, hstays.errored, hstays.error, ?_⟩
      show about _ (_ ++ []) = _
      rw [List.append_nil]
    · have hkept := (refl session).kept hd hsound s hs hend after hafter hsame
      refine ⟨hkept.ended, hkept.hasError, hkept.error, hothers ?_⟩
      rw [← hsame, ← hid]
      exact hne

theorem quiet {span : Span} {shared : Shared}
    (hspan : ∃ current ∈ session.spans, current.bare = span.bare)
    (hstanding : ∀ current, session.span? span.id = some current →
      Standing session.sink.handovers current →
      Standing session.sink.handovers { current with shared } ∧
      (current.shared.ended = true → current.shared.Stays shared)) :
    Proceeds session (session.setShared span.id shared) := by
  have h : Proceeds session { session.setShared span.id shared with
      sink := ⟨session.sink.own, session.sink.handovers ++ []⟩ } := by
    apply step _ hspan (by simp)
    intro current hfind _ hcurrent
    obtain ⟨hafter, hstays⟩ := hstanding current hfind hcurrent
    rw [List.append_nil]
    exact ⟨hafter, fun hend => ⟨hstays hend, rfl⟩⟩
  rw [List.append_nil] at h
  exact h

end Proceeds

/-! ## Every call keeps the invariant -/

section Calls

variable (sink : Sink σ) {session : Session (Watched σ)} {span : Span}

/-- Where a call goes on: at a stage for an open span, or at one that does nothing more
to a span that has ended. -/
def Shared.Awaits (shared : Shared) (next stage : Stage) : Prop :=
  stage = next ∨ shared.ended = true ∧ stage.report? = none

theorem Shared.Awaits.report?_eq_none {shared : Shared} {next stage : Stage}
    (h : shared.Awaits next stage) (hnext : next.report? = none) : stage.report? = none := by
  rcases h with rfl | ⟨-, h⟩
  · exact hnext
  · exact h

theorem Shared.Awaits.eq_of_open {shared : Shared} {next stage : Stage}
    (h : shared.Awaits next stage) (hopen : shared.ended = false) : stage = next := by
  rcases h with h | ⟨hend, -⟩
  · exact h
  · rw [hopen] at hend
    cases hend

theorem Shared.report?_closing (own : Option Fault) : (closing own).report? = none := by
  cases own <;> rfl

theorem Span.records_eq_of_bare {current : Span} (h : current.bare = span.bare)
    (reported : Option Fault) (now : Moment) :
    current.records reported now = span.records reported now := by
  show current.bare.records reported now = span.bare.records reported now
  rw [h]

theorem proceeds_record (hspan : ∃ current ∈ session.spans, current.bare = span.bare)
    {stage : Stage} {fault : Fault}
    (hstage : ∀ current, session.span? span.id = some current →
      current.shared.Awaits (.store fault false) stage) :
    Proceeds session
      (session.setShared span.id (session.progress stage.rank span stage).shared) := by
  apply Proceeds.quiet hspan
  intro current hfind hstanding
  have hawaits := hstage current hfind
  rw [session.progress_eq hfind]
  cases hend : current.shared.ended with
  | true =>
    have hstays := (Shared.stays_advance hend hstanding.full
      (hawaits.report?_eq_none rfl) stage.rank).1
    exact ⟨hstanding.stays hend hstays, fun _ => hstays⟩
  | false =>
    obtain ⟨hopen, hnone⟩ := hstanding.isOpen hend
    obtain rfl := hawaits.eq_of_open hend
    exact ⟨.opened (Shared.open_advance_store hopen fault).1 hnone,
      fun h => absurd h Bool.false_ne_true⟩

theorem proceeds_close (hspan : ∃ current ∈ session.spans, current.bare = span.bare)
    {stage : Stage} (own : Option Fault)
    (hstage : ∀ current, session.span? span.id = some current →
      current.shared.Awaits (Shared.closing own) stage)
    (inner : List Reply) (now : Moment) :
    Proceeds session
      ((Session.access stage.rank span stage >>= fun stage =>
        Session.conclude sink.watched span inner now stage).run session).value.2 := by
  rw [Effect.run_bind_returned (session.run_access stage.rank span stage)]
  cases hreport : (session.progress stage.rank span stage).stage.report? with
  | none =>
    rw [Session.conclude, hreport]
    apply Proceeds.quiet hspan
    intro current hfind hstanding
    rw [session.progress_eq hfind] at hreport ⊢
    cases hend : current.shared.ended with
    | true =>
      have hstays := (Shared.stays_advance hend hstanding.full
        ((hstage current hfind).report?_eq_none (Shared.report?_closing own)) stage.rank).1
      exact ⟨hstanding.stays hend hstays, fun _ => hstays⟩
    | false =>
      obtain rfl := (hstage current hfind).eq_of_open hend
      rw [(Shared.closed_advance (hstanding.isOpen hend).1 own).report] at hreport
      cases hreport
  | some reported =>
    obtain ⟨handed, result, state, hdelivered, hrun⟩ := Session.run_conclude sink
      (session.setShared span.id (session.progress stage.rank span stage).shared) span inner now
      hreport
    rw [hrun]
    apply Proceeds.step state hspan
      (fun h hmem => Span.spanId_of_mem_records (hdelivered.mem_records hmem))
    intro current hfind hbare hstanding
    rw [session.progress_eq hfind] at hreport ⊢
    -- Only a span that was open gives its call something to report.
    cases hend : current.shared.ended with
    | true =>
      have hnone := (Shared.stays_advance hend hstanding.full
        ((hstage current hfind).report?_eq_none (Shared.report?_closing own)) stage.rank).2
      rw [hnone] at hreport
      cases hreport
    | false =>
      obtain rfl := (hstage current hfind).eq_of_open hend
      have hclosed := Shared.closed_advance (hstanding.isOpen hend).1 own
      rw [hclosed.report] at hreport
      obtain rfl := Option.some.inj hreport
      rw [← Span.records_eq_of_bare hbare] at hdelivered
      exact ⟨hstanding.close hend hclosed hdelivered, fun h => absurd h Bool.false_ne_true⟩

theorem proceeds_lookup {id : String} {found : Span → Effect (Session (Watched σ)) Reply}
    (hfound : ∀ span, session.span? id = some span → span ∈ session.spans → span.id = id →
      Proceeds session ((found span).run session).value.2) :
    Proceeds session
      ((do
        match (← Effect.state).span? id with
        | none => return .unknownSpan
        | some span => found span : Effect (Session (Watched σ)) Reply).run session).value.2 := by
  rw [Effect.run_bind_returned (x := Effect.state) rfl]
  cases hspan : session.span? id with
  | none => exact .refl session
  | some span =>
    obtain ⟨hmem, hid⟩ := Session.mem_of_span? hspan
    exact hfound span hspan hmem hid

/-- The span may end before a call with an error has turned what it was given into one. -/
theorem proceeds_turned {before : List Call} {fault : Fault} {completes : Bool}
    {rest : Stage → List Reply → Effect (Session (Watched σ)) Reply}
    (hbefore : Proceeds session ((Session.calls sink.watched before).run session).value.2)
    (hspan : session.span? span.id = some span)
    (hrest : ∀ stage inner middle, Proceeds session middle →
      (∀ current, middle.span? span.id = some current →
        current.shared.Awaits (.store fault completes) stage) →
      Proceeds session ((rest stage inner).run middle).value.2) :
    Proceeds session
      ((Session.turned sink.watched span before fault completes rest).run session).value.2 := by
  cases hend : span.shared.ended with
  | true =>
    -- No call was made, so the span is as the check found it.
    rw [Session.run_turned_of_ended before fault completes rest hspan hend rfl]
    refine hrest _ [] session (.refl session) fun current hcurrent => .inr ?_
    rw [hspan] at hcurrent
    obtain rfl := Option.some.inj hcurrent
    exact ⟨hend, Stage.report?_afterError false completes⟩
  | false =>
    rw [Session.run_turned_of_open before fault completes rest hspan hend]
    exact Effect.leaves_bind hbefore fun inner middle hmiddle =>
      hrest _ inner middle hmiddle fun _ _ => .inl rfl

mutual

/-- Whatever its sink does, a call keeps the invariant. -/
theorem proceeds_call : ∀ (c : Call) (session : Session (Watched σ)),
    Proceeds session ((Session.call sink.watched c).run session).value.2
  | .start id identity started timestamp, session => .start session rfl
  | .complete id now, session => by
    rw [Session.call]
    refine proceeds_lookup ?_
    rintro span hspan hmem rfl
    exact proceeds_close sink ⟨span, hmem, rfl⟩ none (fun _ _ => .inl rfl) [] now
  | .recordError id before fault, session => by
    rw [Session.call]
    refine proceeds_lookup ?_
    rintro span hspan hmem rfl
    refine proceeds_turned sink (proceeds_calls before session) hspan ?_
    intro stage inner middle hmiddle hstage
    rw [Effect.run_bind_returned (middle.run_access stage.rank span stage)]
    exact hmiddle.trans (proceeds_record (hmiddle.grown.exists_mem hmem) hstage)
  | .completeWithError id before fault now, session => by
    rw [Session.call]
    refine proceeds_lookup ?_
    rintro span hspan hmem rfl
    refine proceeds_turned sink (proceeds_calls before session) hspan ?_
    intro stage inner middle hmiddle hstage
    exact hmiddle.trans (proceeds_close sink (hmiddle.grown.exists_mem hmem) (some fault) hstage
      inner now)

theorem proceeds_calls : ∀ (cs : List Call) (session : Session (Watched σ)),
    Proceeds session ((Session.calls sink.watched cs).run session).value.2
  | [], session => .refl session
  | c :: rest, session => by
    rw [Session.calls]
    refine Effect.leaves_bind (proceeds_call c session) fun reply middle hmiddle => ?_
    exact Effect.leaves_bind (hmiddle.trans (proceeds_calls rest middle)) fun _ _ h => h

end

end Calls

/-! ## The call that completes a span -/

/-- What a call comes to that completes a span with an error to report or without. -/
structure Completes (session : Session (Watched σ)) (span : Span) (reported : Option Fault)
    (now : Moment) (inner : List Reply) (before : List Log.Event)
    (run : Logged (Outcome Reply × Session (Watched σ))) (handed : List Handover)
    (result : Outcome Unit) : Prop where
  /-- The records of the span are handed over in order, also behind a record at which
  the sink failed, unless it asked for a shutdown. -/
  delivered : Delivered (span.records reported now) handed result
  handovers : run.value.2.sink.handovers = session.sink.handovers ++ handed
  /-- The call answers that it completed the span; a request to shut down leaves it as
  it came. -/
  answer : run.value.1 = result.andThen fun _ => .returned (.completed inner true)
  /-- Every ordinary failure of the sink is logged once as an error. -/
  events : run.events = before ++ (displayName span.identity).events ++
    handed.flatMap (Handover.logged span.id)
  ended : ∃ after, run.value.2.span? span.id = some after ∧ after.bare = span.bare ∧
    after.isEnded = true ∧ after.hasError = reported.isSome ∧ after.error? = reported

theorem Completes.behind {session : Session (Watched σ)} {span : Span} {reported : Option Fault}
    {now : Moment} {inner : List Reply} {before : List Log.Event}
    {run : Logged (Outcome Reply × Session (Watched σ))} {handed : List Handover}
    {result : Outcome Unit} (h : Completes session span reported now inner before run handed result)
    (events : List Log.Event) :
    Completes session span reported now inner (events ++ before) ⟨run.value, events ++ run.events⟩
      handed result := by
  refine ⟨h.delivered, h.handovers, h.answer, ?_, h.ended⟩
  show events ++ run.events = _
  rw [h.events]
  simp only [List.append_assoc]

namespace Session

theorem find?_changeFirst {id : String} (shared : Shared) : ∀ spans : List Span,
    (changeFirst id (fun span => { span with shared }) spans).find? (·.id == id) =
      (spans.find? (·.id == id)).map fun span => { span with shared }
  | [] => rfl
  | span :: rest => by
    rw [changeFirst, List.find?_cons]
    cases hid : span.id == id with
    | true => simp [hid]
    | false => simp [hid, find?_changeFirst shared rest]

theorem span?_setShared (session : Session σ) (id : String) (shared : Shared) :
    (session.setShared id shared).span? id =
      (session.span? id).map fun span => { span with shared } :=
  find?_changeFirst shared session.spans

end Session

section Closing

variable (sink : Sink σ) {session : Session (Watched σ)} {span current : Span}

/-- The last accesses of a completion on a span that is open then. -/
theorem completes_close (hcurrent : session.span? span.id = some current)
    (hbare : current.bare = span.bare) (hopen : current.shared.Open) (own : Option Fault)
    (inner : List Reply) (now : Moment) :
    ∃ handed result, Completes session span (current.error?.or own) now inner
      (Session.remarkEvents span.id
        ((own.bind fun _ => current.error?).toList.map fun _ => .errorTaken))
      ((Session.access (Shared.closing own).rank span (Shared.closing own) >>= fun stage =>
        Session.conclude sink.watched span inner now stage).run session) handed result := by
  have hclosed := Shared.closed_advance hopen own
  have haccess := session.run_access (Shared.closing own).rank span (Shared.closing own)
  rw [session.progress_eq hcurrent, hclosed.remarks] at haccess
  obtain ⟨handed, result, state, hdelivered, hrun⟩ := Session.run_conclude sink
    (session.setShared span.id
      (current.shared.advance (Shared.closing own) (Shared.closing own).rank).shared) span inner now
    hclosed.report
  refine ⟨handed, result, ?_⟩
  rw [Effect.run_bind haccess hrun]
  refine ⟨hdelivered, rfl, rfl, (List.append_assoc ..).symm, ?_⟩
  have hfind := session.span?_setShared span.id
    (current.shared.advance (Shared.closing own) (Shared.closing own).rank).shared
  rw [hcurrent] at hfind
  refine ⟨_, hfind, hbare, hclosed.ended, ?_, hclosed.error⟩
  have hfull := hclosed.full
  have herror : _ = current.error?.or own := hclosed.error
  rw [← herror]
  show Shared.errored _ = (Shared.error? _).isSome
  rw [Shared.error?]
  split
  · next herrored => rw [herrored, hfull herrored]
  · next herrored => simpa using herrored

/-- The last accesses of a completion on a span that has ended by then. -/
theorem run_close_of_ended (hcurrent : session.span? span.id = some current)
    (hend : current.shared.ended = true)
    (hfull : current.shared.errored = true → current.shared.stored.isSome) {stage : Stage}
    (hreport : stage.report? = none) (inner : List Reply) (now : Moment) :
    ((Session.access stage.rank span stage >>= fun stage =>
        Session.conclude sink.watched span inner now stage).run session).value =
      (.returned (.completed inner false),
        session.setShared span.id (current.shared.advance stage stage.rank).shared) := by
  have haccess := session.run_access stage.rank span stage
  rw [session.progress_eq hcurrent] at haccess
  rw [Effect.run_bind_returned haccess, Session.conclude,
    (Shared.stays_advance hend hfull hreport stage.rank).2]
  rfl

theorem run_finish_of_ended (hspan : session.span? span.id = some span)
    (hend : span.shared.ended = true) (kept : Option Bool) (now : Moment) :
    (Session.access 1 span (.finish kept) >>= fun stage =>
        Session.conclude sink.watched span [] now stage).run session =
      ⟨(.returned (.completed [] false), session),
        Session.remarkEvents span.id [.alreadyEnded]⟩ := by
  have haccess := session.run_access 1 span (.finish kept)
  have hadvance : span.shared.advance (.finish kept) 1 =
      ⟨span.shared, .completed kept .alreadyEnded, [.alreadyEnded]⟩ := by
    simp [Shared.advance, Shared.step, hend]
  rw [session.progress_eq hspan, hadvance, Session.setShared_self hspan] at haccess
  exact Effect.run_bind haccess rfl

end Closing

/-! ## Whole histories -/

/-- What may come to pass with a session: calls are made one after the other, whatever
became of those before, and the owner of the sink may change its state in between. -/
inductive Later (sink : Sink σ) (session : Session (Watched σ)) : Session (Watched σ) → Prop where
  | refl : Later sink session session
  | call {middle : Session (Watched σ)} (c : Call) (h : Later sink session middle) :
      Later sink session ((Session.call sink.watched c).run middle).value.2
  | touch {middle : Session (Watched σ)} (own : σ) (h : Later sink session middle) :
      Later sink session { middle with sink := { middle.sink with own } }

namespace Later

variable {sink : Sink σ} {start session : Session (Watched σ)}

/-- The calls that an error makes are calls like others: each is made in a session that
the owner of the spans might have come to as well. -/
theorem calls : ∀ (cs : List Call) {session : Session (Watched σ)}, Later sink start session →
    Later sink start ((Session.calls sink.watched cs).run session).value.2
  | [], _, h => h
  | c :: rest, _, h => by
    rw [Session.calls]
    exact Effect.leaves_bind (h.call c) fun _ _ hmiddle =>
      Effect.leaves_bind (calls rest hmiddle) fun _ _ hafter => hafter

theorem proceeds (h : Later sink start session) : Proceeds start session := by
  induction h with
  | refl => exact .refl start
  | call c _ ih => exact ih.trans (proceeds_call sink c _)
  | touch own _ ih => exact ih.trans (.touch _ own)

theorem sound {own : σ} (h : Later sink ⟨[], ⟨own, []⟩⟩ session)
    (hd : (ids session.spans).Nodup) : Sound session :=
  h.proceeds.sound hd ⟨nofun, nofun⟩

end Later

/-- How the completion of a span is contained, whatever the sink does. -/
structure Contained (sink : Sink σ) (session : Session (Watched σ)) (span : Span) : Prop where
  /-- What is said of the watched sink holds of the sink itself. -/
  unseen : ∀ c, (Session.call sink c).run session.unwatched =
    ⟨(((Session.call sink.watched c).run session).value.1,
        ((Session.call sink.watched c).run session).value.2.unwatched),
      ((Session.call sink.watched c).run session).events⟩
  /-- Of an open span nothing was handed over; of an ended one its records were. -/
  standing : Standing session.sink.handovers span
  /-- The call that completes the span without an error of its own. -/
  complete : span.isEnded = false → ∀ now, ∃ handed result,
    Completes session span span.error? now [] []
      ((Session.call sink.watched (.complete span.id now)).run session) handed result
  /-- The call that completes the span with an error: the calls that the error makes
  come first, and may record another one or complete the span themselves. -/
  completeWithError : span.isEnded = false → ∀ before fault now inner middle events,
    (Session.calls sink.watched before).run session = ⟨(.returned inner, middle), events⟩ →
    (ids middle.spans).Nodup →
    ∃ current, middle.span? span.id = some current ∧ current.bare = span.bare ∧
      (current.isEnded = false → ∃ handed result,
        Completes middle span (current.error?.or (some fault)) now inner
          (events ++ Session.remarkEvents span.id (current.error?.toList.map fun _ => .errorTaken))
          ((Session.call sink.watched (.completeWithError span.id before fault now)).run session)
          handed result) ∧
      (current.isEnded = true →
        ((Session.call sink.watched (.completeWithError span.id before fault now)).run
          session).value.1 = .returned (.completed inner false) ∧
        ((Session.call sink.watched (.completeWithError span.id before fault now)).run
          session).value.2.sink = middle.sink)
  /-- A call whose error could not be had does not complete the span. -/
  interrupted : span.isEnded = false → ∀ before fault now payload middle events,
    (Session.calls sink.watched before).run session = ⟨(.unwound payload, middle), events⟩ →
    (Session.call sink.watched (.completeWithError span.id before fault now)).run session =
      ⟨(.unwound payload, middle), events⟩
  /-- Further completions change nothing and hand nothing over. -/
  late : span.isEnded = true → ∀ now,
    (Session.call sink.watched (.complete span.id now)).run session =
      ⟨(.returned (.completed [] false), session),
        Session.remarkEvents span.id [.alreadyEnded]⟩
  lateWithError : span.isEnded = true → ∀ before fault now,
    (Session.call sink.watched (.completeWithError span.id before fault now)).run session =
      ⟨(.returned (.completed [] false), session),
        Session.remarkEvents span.id [.errorAfterEnd, .alreadyEnded]⟩
  /-- An ended span stays as it is for good, and nothing more is handed over of it. -/
  forever : span.isEnded = true → ∀ later, Later sink session later → (ids later.spans).Nodup →
    ∃ current ∈ later.spans, current.bare = span.bare ∧ Kept session later span current

/-- **A failing sink does not disturb the completion of a span.** For every sink, every
history of calls, made in errors of other calls or not, and every span: completion
is contained. -/
theorem completion_is_contained (sink : Sink σ) (own : σ) {session : Session (Watched σ)}
    (hlater : Later sink ⟨[], ⟨own, []⟩⟩ session) (hdistinct : (ids session.spans).Nodup)
    {span : Span} (hmem : span ∈ session.spans) : Contained sink session span := by
  have hsound := hlater.sound hdistinct
  have hstanding := hsound.standing span hmem
  have hspan : session.span? span.id = some span := Session.find?_eq_of_mem hdistinct hmem
  constructor
  · exact fun c => Session.run_call_watched sink c session
  · exact hstanding
  · intro hopen now
    obtain ⟨handed, result, h⟩ := completes_close sink hspan rfl
      (hstanding.isOpen hopen).1 none [] now
    refine ⟨handed, result, ?_⟩
    rw [Option.or_none] at h
    rw [Session.run_complete hspan]
    exact h
  · intro hopen before fault now inner middle events hrun hd
    have hgrown := (proceeds_calls sink before session).grown
    have hbefore := hlater.calls before
    rw [hrun] at hgrown hbefore
    obtain ⟨current, hcurrent, hbare⟩ := hgrown.exists_mem hmem
    have hstanding' := (hbefore.sound hd).standing current hcurrent
    have hfind := Session.find?_eq_of_mem hd hcurrent
    rw [Span.id_eq hbare] at hfind
    refine ⟨current, hfind, hbare, ?_, ?_⟩
    · intro hcurrentOpen
      obtain ⟨handed, result, h⟩ := completes_close sink hfind hbare
        (hstanding'.isOpen hcurrentOpen).1 (some fault) inner now
      refine ⟨handed, result, ?_⟩
      rw [Session.run_completeWithError before fault hspan,
        Session.run_turned_of_open before fault true _ hspan hopen,
        Effect.run_bind_returned hrun]
      exact h.behind events
    · intro hcurrentEnded
      have h := run_close_of_ended sink hfind hcurrentEnded hstanding'.full
        (Shared.report?_closing (some fault)) inner now
      rw [Session.run_completeWithError before fault hspan,
        Session.run_turned_of_open before fault true _ hspan hopen,
        Effect.run_bind_returned hrun]
      exact ⟨congrArg Prod.fst h, congrArg (fun value => value.2.sink) h⟩
  · intro hopen before fault now payload middle events hrun
    rw [Session.run_completeWithError before fault hspan,
      Session.run_turned_of_open before fault true _ hspan hopen]
    exact Effect.run_bind_unwound hrun _
  · intro hend now
    rw [Session.run_complete hspan]
    exact run_finish_of_ended sink hspan hend none now
  · intro hend before fault now
    rw [Session.run_completeWithError before fault hspan]
    exact Session.run_turned_of_ended before fault true _ hspan hend
      (run_finish_of_ended sink hspan hend (some false) now)
  · intro hend later h hd
    have hproceeds := h.proceeds
    obtain ⟨current, hcurrent, hbare⟩ := hproceeds.grown.exists_mem hmem
    exact ⟨current, hcurrent, hbare,
      hproceeds.kept hd hsound span hmem hend current hcurrent (Span.id_eq hbare)⟩

/-- A sink that fails on the record of a call and asks for a shutdown on that of an
error. It counts what it was handed. -/
def failingSink : Sink Nat := fun record count =>
  match record with
  | .dependency _ => ⟨(.unwound (.text "full"), count + 1), []⟩
  | .exception _ => ⟨(.unwound .termination, count + 1), []⟩

/-- A span with an error, of which the sink has not heard yet. -/
def failingSession (timestamp : Time.Timestamp) : Session (Watched Nat) :=
  ((Session.calls failingSink.watched
    [.start "span" "__custom,a.B,run" 0 timestamp,
      .recordError "span" [] (.causedBy (.root "cause") "told")]).run ⟨[], ⟨0, []⟩⟩).value.2

theorem completion_is_contained_of_failing :
    ∃ session span, Later failingSink ⟨[], ⟨0, []⟩⟩ session ∧ (ids session.spans).Nodup ∧
      span ∈ session.spans ∧ span.isEnded = false ∧
      span.error? = some (.causedBy (.root "cause") "told") ∧
      Contained failingSink session span := by
  let session := failingSession ⟨0, 0, by decide⟩
  have hlater : Later failingSink ⟨[], ⟨0, []⟩⟩ session := Later.calls _ .refl
  have hdistinct : (ids session.spans).Nodup := by decide +kernel
  have hspan : (session.span? "span").map (fun span => (span.isEnded, span.error?)) =
      some (false, some (.causedBy (.root "cause") "told")) := by decide +kernel
  obtain ⟨span, hfind, hfacts⟩ := Option.map_eq_some_iff.1 hspan
  obtain ⟨hopen, herror⟩ := Prod.mk.inj hfacts
  have hmem := (Session.mem_of_span? hfind).1
  exact ⟨session, span, hlater, hdistinct, hmem, hopen, herror,
    completion_is_contained failingSink 0 hlater hdistinct hmem⟩

-- Both records are handed over, and the first failure is an error in the log; the request
-- to shut down is not.
example :
    let run := (Session.call failingSink.watched (.complete "span" ⟨⟨1, 0, by decide⟩, 20⟩)).run
      (failingSession ⟨0, 0, by decide⟩)
    run.value.2.sink.own = 2 ∧ run.events = [sinkFailed "span" ⟨"full"⟩] := by decide +kernel

end Instrumentation.Telemetry
