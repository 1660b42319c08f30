import Instrumentation.Proofs.Telemetry.Deeds
/-
  Histories of calls that share a sink

  Calls are made one after the other on any number of spans, and turning an error
  into one may make further calls first, on the same span or on others, to any
  depth. The records go to one sink that keeps them; they may be taken out of it at
  any time in between.

  What is proved, of every history in which no two spans have one id:
    1. `call_keeps`, `calls_keep` — the invariant of every span survives every call
       with all that it makes inside.
    2. `history_accounted` — every span that was completed has one dependency record,
       from the one completion that emitted; if an error was kept, the record of that
       error stands right behind it; and there is no other record of the span.

  A call that is still under way when its error makes other calls has left no trace
  yet: it reads whether the span has ended before them and makes all its other
  accesses after them. That is why the invariant needs no word on calls under way.
-/

namespace Instrumentation.Telemetry

open Time (Moment)

/-! ## Spans keep what they were started with -/

/-- A span without what its calls share: what it was started with. -/
def Span.bare (span : Span) : Span := { span with shared := {} }

theorem Span.handedOver_eq {span current : Span} (h : current.bare = span.bare) (now : Moment)
    (stage : Stage) : current.handedOver now stage = span.handedOver now stage := by
  show current.bare.handedOver now stage = span.bare.handedOver now stage
  rw [h]

theorem Span.id_eq {span current : Span} (h : current.bare = span.bare) :
    current.id = span.id := by
  show current.bare.id = span.bare.id
  rw [h]

def ids (spans : List Span) : List String := spans.map Span.id

theorem ids_eq (spans : List Span) : ids spans = (spans.map Span.bare).map Span.id := by
  rw [List.map_map]
  rfl

/-- Spans were started, and none was lost or started anew. -/
def Extends (old new : List Span) : Prop :=
  ∃ started, new.map Span.bare = started ++ old.map Span.bare

namespace Extends

theorem refl (spans : List Span) : Extends spans spans := ⟨[], rfl⟩

theorem of_eq {old new : List Span} (h : new.map Span.bare = old.map Span.bare) :
    Extends old new := ⟨[], h⟩

theorem trans {old new newer : List Span} (h : Extends old new) (h' : Extends new newer) :
    Extends old newer := by
  obtain ⟨started, h⟩ := h
  obtain ⟨more, h'⟩ := h'
  exact ⟨more ++ started, by rw [h', h, List.append_assoc]⟩

theorem nodup {old new : List Span} (h : Extends old new) (hd : (ids new).Nodup) :
    (ids old).Nodup := by
  obtain ⟨started, h⟩ := h
  rw [ids_eq, h, List.map_append, ← ids_eq old] at hd
  exact (List.nodup_append.1 hd).2.1

theorem exists_mem {old new : List Span} (h : Extends old new) {span : Span} (hs : span ∈ old) :
    ∃ current ∈ new, current.bare = span.bare := by
  obtain ⟨started, h⟩ := h
  have hmem : span.bare ∈ new.map Span.bare := by
    rw [h]
    exact List.mem_append_right _ (List.mem_map_of_mem hs)
  exact List.mem_map.1 hmem

end Extends

/-! ## The spans of a session -/

namespace Session

theorem find?_eq_of_mem {span : Span} : ∀ {spans : List Span}, (ids spans).Nodup →
    span ∈ spans → spans.find? (·.id == span.id) = some span
  | [], _, h => absurd h List.not_mem_nil
  | first :: rest, hd, h => by
    obtain ⟨hfirst, hrest⟩ := List.nodup_cons.1 hd
    rcases List.mem_cons.1 h with rfl | h
    · simp
    · have hne : first.id ≠ span.id := fun he => hfirst (he ▸ List.mem_map_of_mem h)
      rw [List.find?_cons_of_neg (by simpa using hne)]
      exact find?_eq_of_mem hrest h

theorem mem_of_span? {σ : Type} {session : Session σ} {id : String} {span : Span}
    (h : session.span? id = some span) : span ∈ session.spans ∧ span.id = id :=
  ⟨List.mem_of_find?_eq_some h, by simpa using List.find?_some h⟩

theorem map_bare_changeFirst (id : String) (shared : Shared) : ∀ spans : List Span,
    (changeFirst id (fun span => { span with shared }) spans).map Span.bare =
      spans.map Span.bare
  | [] => rfl
  | span :: rest => by
    rw [changeFirst]
    split
    · rfl
    · rw [List.map_cons, map_bare_changeFirst id shared rest, List.map_cons]

theorem mem_changeFirst {current span : Span} {f : Span → Span} : ∀ {spans : List Span},
    (ids spans).Nodup → current ∈ spans → span ∈ changeFirst current.id f spans →
    span = f current ∨ span ∈ spans ∧ span.id ≠ current.id
  | [], _, h, _ => absurd h List.not_mem_nil
  | first :: rest, hd, h, hs => by
    obtain ⟨hfirst, hrest⟩ := List.nodup_cons.1 hd
    rw [changeFirst] at hs
    rcases List.mem_cons.1 h with rfl | h
    · rw [if_pos (by simp)] at hs
      rcases List.mem_cons.1 hs with rfl | hs
      · exact .inl rfl
      · exact .inr ⟨List.mem_cons_of_mem _ hs,
          fun he => hfirst (he ▸ List.mem_map_of_mem hs)⟩
    · have hne : first.id ≠ current.id := fun he => hfirst (he ▸ List.mem_map_of_mem h)
      rw [if_neg (by simpa using hne)] at hs
      rcases List.mem_cons.1 hs with rfl | hs
      · exact .inr ⟨List.mem_cons_self, hne⟩
      · rcases mem_changeFirst hrest h hs with rfl | ⟨hs, hid⟩
        · exact .inl rfl
        · exact .inr ⟨List.mem_cons_of_mem _ hs, hid⟩

theorem changeFirst_self {id : String} {span : Span} : ∀ {spans : List Span},
    spans.find? (·.id == id) = some span →
    changeFirst id (fun s => { s with shared := span.shared }) spans = spans
  | [], _ => rfl
  | first :: rest, h => by
    rw [changeFirst]
    rw [List.find?_cons] at h
    cases hid : first.id == id with
    | true =>
      rw [hid] at h
      obtain rfl := Option.some.inj h
      rfl
    | false =>
      rw [hid] at h
      rw [changeFirst_self h]
      rfl

variable {σ : Type} {session : Session σ}

/-- Setting what a span shares to what it shares changes nothing. -/
theorem setShared_self {id : String} {span : Span} (h : session.span? id = some span) :
    session.setShared id span.shared = session := by
  rw [setShared, changeFirst_self h]

theorem extends_setShared (session : Session σ) (id : String) (shared : Shared) :
    Extends session.spans (session.setShared id shared).spans :=
  .of_eq (map_bare_changeFirst id shared session.spans)

/-! ## What the parts of a call return -/

theorem returns_logRemarks (id : String) (session : Session σ) : ∀ remarks : List Remark,
    (logRemarks id remarks).Returns session () session
  | [] => Effect.returns_pure () session
  | _ :: rest => (Effect.returns_event _ session).bind (returns_logRemarks id session rest)

/-- What the accesses of a call leave behind. -/
def progress (session : Session σ) (n : Nat) (span : Span) (stage : Stage) : Progress :=
  ((session.span? span.id).getD span).shared.advance stage n

theorem progress_eq {span current : Span} (h : session.span? span.id = some current) (n : Nat)
    (stage : Stage) : session.progress n span stage = current.shared.advance stage n := by
  rw [progress, h]
  rfl

theorem returns_access (session : Session σ) (n : Nat) (span : Span) (stage : Stage) :
    (access n span stage).Returns session (session.progress n span stage).stage
      (session.setShared span.id (session.progress n span stage).shared) :=
  (Effect.returns_state session).bind <| (Effect.returns_change _ session).bind <|
    (returns_logRemarks _ _ _).bind (Effect.returns_pure _ _)

theorem returns_conclude (session : Session Memory) (span : Span) (inner : List Reply)
    (now : Moment) (stage : Stage) :
    (conclude Memory.sink span inner now stage).Returns session
      (.completed inner stage.report?.isSome)
      { session with sink := ⟨session.sink.records ++ span.handedOver now stage⟩ } := by
  rw [conclude, Span.handedOver]
  cases stage.report? with
  | none =>
    have h := Effect.returns_pure (Reply.completed inner false) session
    simpa using h
  | some reported =>
    have h := (span.returns_deliver reported now session.sink).onPart
      (fun (session : Session Memory) sink => { session with sink })
    exact h.bind (Effect.returns_pure _ _)

theorem returns_check {span : Span} (hspan : session.span? span.id = some span) (fault : Fault)
    (completes : Bool) :
    (access 1 span (.check fault completes)).Returns session
      (span.shared.step (.check fault completes)).stage session := by
  have h := returns_access session 1 span (.check fault completes)
  have hsame : (span.shared.advance (.check fault completes) 1).shared = span.shared := by
    cases hend : span.shared.ended <;> simp [Shared.advance, Shared.step, hend]
  rw [progress_eq hspan, hsame, setShared_self hspan] at h
  exact h

end Session

/-! ## The invariant of a session -/

/-- The deeds and the records agree with every span, and are of no other. -/
structure Accounted (deeds : List Deed) (records : List Record) (spans : List Span) : Prop where
  invariant : ∀ span ∈ spans, SpanInvariant deeds records span
  deeds_known : ∀ d ∈ deeds, d.id ∈ ids spans
  records_known : ∀ record ∈ records, record.spanId ∈ ids spans

namespace Accounted

variable {deeds : List Deed} {records : List Record} {spans : List Span}

theorem nil : Accounted [] [] [] := by
  constructor <;> simp

/-- Nothing was done to a span that has just been started. -/
theorem start (h : Accounted deeds records spans) {span : Span} (hfresh : span.shared = {})
    (hd : (ids (span :: spans)).Nodup) : Accounted deeds records (span :: spans) := by
  have hnew : span.id ∉ ids spans := (List.nodup_cons.1 hd).1
  refine ⟨?_, fun d hmem => List.mem_cons_of_mem _ (h.deeds_known d hmem),
    fun record hmem => List.mem_cons_of_mem _ (h.records_known record hmem)⟩
  intro s hs
  rcases List.mem_cons.1 hs with rfl | hs
  · have hothers : ∀ d ∈ deeds, d.id ≠ s.id := fun d hmem he => hnew (he ▸ h.deeds_known d hmem)
    refine .opened (by rw [hfresh]) (by rw [hfresh]; rfl) ?_ (completions_eq_nil hothers)
      fun record hmem he => hnew (he ▸ h.records_known record hmem)
    rw [keptFaults_eq_nil hothers, hfresh]
    rfl
  · exact h.invariant s hs

/-- What is done to one span leaves the others as they are. -/
theorem change (h : Accounted deeds records spans) (hd : (ids spans).Nodup) {current : Span}
    (hc : current ∈ spans) {deed : Deed} {new : List Record} (shared : Shared)
    (hdeed : deed.id = current.id) (hnew : ∀ record ∈ new, record.spanId = current.id)
    (hinv : SpanInvariant (deeds ++ [deed]) (records ++ new) { current with shared }) :
    Accounted (deeds ++ [deed]) (records ++ new)
      (Session.changeFirst current.id (fun span => { span with shared }) spans) := by
  have hids : ids (Session.changeFirst current.id (fun span => { span with shared }) spans) =
      ids spans := by
    rw [ids_eq, Session.map_bare_changeFirst, ← ids_eq]
  have hmem : current.id ∈ ids spans := List.mem_map_of_mem hc
  constructor
  · intro span hs
    rcases Session.mem_changeFirst hd hc hs with rfl | ⟨hs, hne⟩
    · exact hinv
    · refine (h.invariant span hs).append ?_ ?_
      · intro d hd
        rw [List.mem_singleton.1 hd, hdeed]
        exact hne.symm
      · intro record hrecord
        rw [hnew record hrecord]
        exact hne.symm
  · intro d hd
    rw [hids]
    rcases List.mem_append.1 hd with hd | hd
    · exact h.deeds_known d hd
    · rw [List.mem_singleton.1 hd, hdeed]
      exact hmem
  · intro record hrecord
    rw [hids]
    rcases List.mem_append.1 hrecord with hrecord | hrecord
    · exact h.records_known record hrecord
    · rw [hnew record hrecord]
      exact hmem

end Accounted

/-! ## What a call does to a session -/

/-- From one session to a later one some deeds were done, and no others. Records that
were taken out of the sink before do not matter. -/
structure Leads (session : Session Memory) (deeds : List Deed) (after : Session Memory) :
    Prop where
  grown : Extends session.spans after.spans
  accounted : ∀ (earlier : List Deed) (taken : List Record), (ids after.spans).Nodup →
    Accounted earlier (taken ++ session.sink.records) session.spans →
    Accounted (earlier ++ deeds) (taken ++ after.sink.records) after.spans

namespace Leads

variable {session after later : Session Memory} {deeds more : List Deed}

theorem refl (session : Session Memory) : Leads session [] session :=
  ⟨.refl _, fun _ _ _ h => by rwa [List.append_nil]⟩

theorem trans (h : Leads session deeds after) (h' : Leads after more later) :
    Leads session (deeds ++ more) later := by
  refine ⟨h.grown.trans h'.grown, ?_⟩
  intro earlier taken hd hacc
  rw [← List.append_assoc]
  exact h'.accounted _ taken hd (h.accounted earlier taken (h'.grown.nodup hd) hacc)

/-- What is done to one span in one go, if the span's own invariant survives it. -/
theorem of_invariant {span : Span} {deed : Deed} {shared : Shared} {new : List Record}
    (hspan : ∃ current ∈ session.spans, current.bare = span.bare) (hdeed : deed.id = span.id)
    (hnew : ∀ record ∈ new, record.spanId = span.id)
    (hinv : ∀ current earlier records, session.span? span.id = some current →
      current.bare = span.bare → SpanInvariant earlier records current →
      SpanInvariant (earlier ++ [deed]) (records ++ new) { current with shared }) :
    Leads session [deed]
      { session.setShared span.id shared with sink := ⟨session.sink.records ++ new⟩ } := by
  refine ⟨session.extends_setShared span.id shared, ?_⟩
  intro earlier taken hd hacc
  have hd := (session.extends_setShared span.id shared).nodup hd
  -- The call looked the span up before its error made calls; its accesses are to
  -- what the span of that id shares now.
  obtain ⟨current, hmem, hbare⟩ := hspan
  have hid := Span.id_eq hbare
  have hfind : session.span? span.id = some current := by
    rw [← hid]
    exact Session.find?_eq_of_mem hd hmem
  show Accounted _ (taken ++ (session.sink.records ++ new)) _
  rw [← List.append_assoc]
  have h := hacc.change hd hmem shared (hdeed.trans hid.symm)
    (fun record hrecord => (hnew record hrecord).trans hid.symm)
    (hinv current _ _ hfind hbare (hacc.invariant current hmem))
  rwa [hid] at h

/-- The last accesses of a call that records an error. -/
theorem record {span : Span} {stage : Stage} {fault : Fault}
    (hspan : ∃ current ∈ session.spans, current.bare = span.bare)
    (hstage : ∀ current, session.span? span.id = some current →
      stage.Checked fault false current.shared) :
    Leads session
      [.recorded span.id fault (session.progress stage.rank span stage).stage.kept]
      (session.setShared span.id (session.progress stage.rank span stage).shared) := by
  have h : Leads session
      [.recorded span.id fault (session.progress stage.rank span stage).stage.kept]
      { session.setShared span.id (session.progress stage.rank span stage).shared with
        sink := ⟨session.sink.records ++ []⟩ } := by
    apply of_invariant hspan rfl (by simp)
    intro current earlier records hfind hbare hinv
    rw [session.progress_eq hfind, ← Span.id_eq hbare, List.append_nil]
    exact hinv.record (hstage current hfind)
  rw [List.append_nil] at h
  exact h

/-- The last accesses of a completion, and the records that it hands over. -/
theorem complete {span : Span} {stage : Stage} {own : Option Fault} {now : Moment}
    (hspan : ∃ current ∈ session.spans, current.bare = span.bare)
    (hinv : ∀ current earlier records, session.span? span.id = some current →
      SpanInvariant earlier records current →
      SpanInvariant (earlier ++ [.completed current.id own
          (current.shared.advance stage stage.rank).stage.report?.isSome])
        (records ++ current.handedOver now (current.shared.advance stage stage.rank).stage)
        { current with shared := (current.shared.advance stage stage.rank).shared }) :
    Leads session
      [.completed span.id own (session.progress stage.rank span stage).stage.report?.isSome]
      { session.setShared span.id (session.progress stage.rank span stage).shared with
        sink := ⟨session.sink.records ++
          span.handedOver now (session.progress stage.rank span stage).stage⟩ } := by
  apply of_invariant hspan rfl (fun record hrecord => Span.spanId_of_mem_handedOver hrecord)
  intro current earlier records hfind hbare h
  rw [session.progress_eq hfind, ← Span.id_eq hbare, ← Span.handedOver_eq hbare]
  exact hinv current earlier records hfind h

end Leads

/-! ## Every call keeps the invariant -/

/-- A computation that returns, having done the deeds that its answer tells of. -/
def Keeps {α : Type} (x : Effect (Session Memory) α) (deeds : α → List Deed) : Prop :=
  ∀ session, ∃ a after, x.Returns session a after ∧ Leads session (deeds a) after

/-- A call on a span looks the span up first, and does nothing if there is none. -/
theorem keeps_lookup {id : String} {found : Span → Effect (Session Memory) Reply}
    {deeds : Reply → List Deed} (hunknown : deeds .unknownSpan = [])
    (hfound : ∀ (session : Session Memory) (span : Span), session.span? span.id = some span →
      span ∈ session.spans → span.id = id →
      ∃ reply after, (found span).Returns session reply after ∧ Leads session (deeds reply) after) :
    Keeps
      (do
        match (← Effect.state).span? id with
        | none => return .unknownSpan
        | some span => found span) deeds := by
  intro session
  cases hspan : session.span? id with
  | none =>
    refine ⟨.unknownSpan, session, (Effect.returns_state session).bind ?_, ?_⟩
    · rw [hspan]
      exact Effect.returns_pure _ _
    · rw [hunknown]
      exact .refl session
  | some span =>
    obtain ⟨hmem, hid⟩ := Session.mem_of_span? hspan
    obtain ⟨reply, after, hreturns, hleads⟩ :=
      hfound session span (by rw [hid]; exact hspan) hmem hid
    refine ⟨reply, after, (Effect.returns_state session).bind ?_, hleads⟩
    rw [hspan]
    exact hreturns

theorem start_keeps (id identity : String) (started : Nat) (timestamp : Time.Timestamp) :
    Keeps (Session.call Memory.sink (.start id identity started timestamp))
      (Call.deeds (.start id identity started timestamp)) := by
  intro session
  refine ⟨.started, session.start { id, identity, started, timestamp }, ?_, ⟨[_], rfl⟩, ?_⟩
  · rw [Session.call]
    exact (Effect.returns_change _ session).bind (Effect.returns_pure _ _)
  · intro earlier taken hd hacc
    show Accounted (earlier ++ []) _ _
    rw [List.append_nil]
    exact hacc.start rfl hd

theorem complete_keeps (id : String) (now : Moment) :
    Keeps (Session.call Memory.sink (.complete id now)) (Call.deeds (.complete id now)) := by
  rw [Session.call]
  refine keeps_lookup rfl ?_
  rintro session span - hmem rfl
  refine ⟨.completed [] _, _, ?_,
    Leads.complete ⟨span, hmem, rfl⟩ fun current earlier records _ h => h.complete now⟩
  exact (session.returns_access 1 span (.finish none)).bind (Session.returns_conclude _ _ _ _ _)

/-- Turning what was given into an error: the calls made for it are made only if the
span was open, and they may end it. -/
theorem exists_turned {before : List Call}
    (hbefore : Keeps (Session.calls Memory.sink before) (deedsOf before))
    {session : Session Memory} {span : Span} (hspan : session.span? span.id = some span)
    (fault : Fault) (completes : Bool) :
    ∃ inner after,
      (if (span.shared.step (.check fault completes)).stage.stores then
        Session.calls Memory.sink before else pure []).Returns session inner after ∧
      Leads session (deedsOf before inner) after ∧
      ∀ current, after.span? span.id = some current →
        (span.shared.step (.check fault completes)).stage.Checked fault completes
          current.shared := by
  cases hend : span.shared.ended with
  | true =>
    have hstage : (span.shared.step (.check fault completes)).stage =
        .afterError false completes := by
      simp [Shared.step, hend]
    have hidle : (Stage.afterError false completes).stores = false := by
      cases completes <;> rfl
    have hnone : deedsOf before [] = [] := by
      cases before <;> rfl
    rw [hstage, hidle]
    refine ⟨[], session, Effect.returns_pure _ _, ?_, ?_⟩
    · rw [hnone]
      exact .refl session
    · -- Nothing came in between, so the span is as the first access found it.
      intro current hcurrent
      rw [hspan] at hcurrent
      obtain rfl := Option.some.inj hcurrent
      exact .ended hend
  | false =>
    have hstage : (span.shared.step (.check fault completes)).stage = .store fault completes := by
      simp [Shared.step, hend]
    obtain ⟨inner, after, hinner, hleads⟩ := hbefore session
    rw [hstage]
    exact ⟨inner, after, hinner, hleads, fun _ _ => .passed⟩

theorem recordError_keeps (id : String) {before : List Call} (fault : Fault)
    (hbefore : Keeps (Session.calls Memory.sink before) (deedsOf before)) :
    Keeps (Session.call Memory.sink (.recordError id before fault))
      (Call.deeds (.recordError id before fault)) := by
  rw [Session.call]
  refine keeps_lookup rfl ?_
  rintro session span hspan hmem rfl
  obtain ⟨inner, after, hinner, hleads, hstage⟩ := exists_turned hbefore hspan fault false
  refine ⟨.recorded inner _, _, ?_,
    hleads.trans (.record (hleads.grown.exists_mem hmem) hstage)⟩
  exact (Session.returns_check hspan fault false).bind <| hinner.bind_ite <|
    (after.returns_access _ span _).bind (Effect.returns_pure _ _)

theorem completeWithError_keeps (id : String) {before : List Call} (fault : Fault) (now : Moment)
    (hbefore : Keeps (Session.calls Memory.sink before) (deedsOf before)) :
    Keeps (Session.call Memory.sink (.completeWithError id before fault now))
      (Call.deeds (.completeWithError id before fault now)) := by
  rw [Session.call]
  refine keeps_lookup rfl ?_
  rintro session span hspan hmem rfl
  obtain ⟨inner, after, hinner, hleads, hstage⟩ := exists_turned hbefore hspan fault true
  refine ⟨.completed inner _, _, ?_,
    hleads.trans (.complete (hleads.grown.exists_mem hmem)
      fun current earlier records hfind h => h.completeWith (hstage current hfind) now)⟩
  exact (Session.returns_check hspan fault true).bind <| hinner.bind_ite <|
    (after.returns_access _ span _).bind (Session.returns_conclude _ _ _ _ _)

mutual

/-- A call keeps the invariant, whatever calls its error makes. -/
theorem call_keeps : ∀ c : Call, Keeps (Session.call Memory.sink c) c.deeds
  | .start id identity started timestamp => start_keeps id identity started timestamp
  | .complete id now => complete_keeps id now
  | .recordError id before fault => recordError_keeps id fault (calls_keep before)
  | .completeWithError id before fault now =>
    completeWithError_keeps id fault now (calls_keep before)

/-- Calls made one after the other keep the invariant. -/
theorem calls_keep : ∀ cs : List Call, Keeps (Session.calls Memory.sink cs) (deedsOf cs)
  | [] => fun session => ⟨[], session, Effect.returns_pure _ _, .refl session⟩
  | c :: rest => fun session => by
    obtain ⟨reply, middle, hc, hleads⟩ := call_keeps c session
    obtain ⟨replies, after, hrest, hmore⟩ := calls_keep rest middle
    refine ⟨reply :: replies, after, ?_, hleads.trans hmore⟩
    rw [Session.calls]
    exact hc.bind (hrest.bind (Effect.returns_pure _ _))

end

/-! ## Whole histories -/

/-- What the owner of the spans and the sink does next. -/
inductive Use where
  | call (c : Call)
  /-- Takes the records out of the sink. -/
  | drain

/-- Uses spans and sink; answers the deeds and the records that were taken out. -/
def play : List Use → Effect (Session Memory) (List Deed × List Record)
  | [] => return ([], [])
  | .call c :: rest => do
    let reply ← Session.call Memory.sink c
    let (deeds, drained) ← play rest
    return (c.deeds reply ++ deeds, drained)
  | .drain :: rest => do
    let records ← Session.onSink (Effect.ofChange Memory.drain)
    let (deeds, drained) ← play rest
    return (deeds, records ++ drained)

/-- A history keeps the invariant; the records that were taken out count as well. -/
theorem play_keeps : ∀ (history : List Use) (session : Session Memory),
    ∃ deeds drained after, (play history).Returns session (deeds, drained) after ∧
      Leads session deeds { after with sink := ⟨drained ++ after.sink.records⟩ }
  | [], session => ⟨[], [], session, Effect.returns_pure _ _, .refl session⟩
  | .call c :: rest, session => by
    obtain ⟨reply, middle, hc, hleads⟩ := call_keeps c session
    obtain ⟨deeds, drained, after, hrest, hmore⟩ := play_keeps rest middle
    refine ⟨c.deeds reply ++ deeds, drained, after, ?_, hleads.trans hmore⟩
    rw [play]
    exact hc.bind (hrest.bind (Effect.returns_pure _ _))
  | .drain :: rest, session => by
    obtain ⟨deeds, drained, after, hrest, hmore⟩ :=
      play_keeps rest { session with sink := .empty }
    refine ⟨deeds, session.sink.records ++ drained, after, ?_, hmore.grown, ?_⟩
    · have hdrain := (Effect.returns_ofChange Memory.drain session.sink).onPart
        (fun (session : Session Memory) sink => { session with sink })
      rw [play]
      exact hdrain.bind (hrest.bind (Effect.returns_pure _ _))
    · -- What is taken out moves to the records that were taken out before.
      intro earlier taken hd hacc
      have h := hmore.accounted earlier (taken ++ session.sink.records) hd
        (by simpa [Memory.empty] using hacc)
      simpa using h

/-- What a history comes to for a span. -/
structure Settled (id : String) (deeds : List Deed) (records : List Record) : Prop where
  /-- At most one error was kept. -/
  kept : (keptFaults id deeds).length ≤ 1
  /-- Without a completion there is no record. -/
  unfinished : completions id deeds = [] → ∀ record ∈ records, record.spanId ≠ id
  /-- Of the completions one emitted: the record of the call, and right behind it that
  of the error that was kept or else of the completion's own, if there is one. The
  call is reported as failed exactly if there is. -/
  finished : completions id deeds ≠ [] → ∃ own d exceptions,
    (completions id deeds).filter (·.2) = [(own, true)] ∧
    Alone id (.dependency d :: exceptions.map .exception) records ∧
    d.spanId = id ∧ (∀ e ∈ exceptions, e.spanId = id) ∧
    exceptions.map (·.fault) = ((keptFaults id deeds).head?.or own).toList ∧
    (d.success = false ↔ ∃ e, exceptions = [e])

theorem SpanInvariant.settled {deeds : List Deed} {records : List Record} {span : Span}
    (h : SpanInvariant deeds records span) : Settled span.id deeds records := by
  cases h with
  | opened hopen hflag hkept hcompletions hrecords =>
    refine ⟨?_, fun _ => hrecords, fun hne => absurd hcompletions hne⟩
    rw [hkept]
    cases span.shared.stored <;> simp
  | ended own now hended hstored hkept hemitted herror hrecords =>
    refine ⟨hkept, ?_, ?_⟩
    · intro hnone
      rw [hnone] at hemitted
      cases hemitted
    · intro _
      obtain ⟨d, heq, hid, hsuccess⟩ := span.records_eq span.shared.error? now
      rw [heq] at hrecords
      refine ⟨own, d, _, hemitted, hrecords, hid, ?_, ?_, ?_⟩
      · intro e he
        obtain ⟨fault, -, rfl⟩ := List.mem_map.1 he
        rfl
      · rw [← herror, List.map_map]
        exact List.map_id _
      · rw [hsuccess]
        cases span.shared.error? <;> simp

/-- **Every completed span is accounted for once.** However calls on spans are nested
in the errors of other calls, and whenever the records are taken out of the sink:
if no two spans have one id, every record is about a span that was started, and
every span is settled. -/
theorem history_accounted (history : List Use) :
    ∃ deeds drained session, (play history).Returns ⟨[], .empty⟩ (deeds, drained) session ∧
      ((ids session.spans).Nodup →
        (∀ record ∈ drained ++ session.sink.records, record.spanId ∈ ids session.spans) ∧
        ∀ span ∈ session.spans,
          Settled span.id deeds (drained ++ session.sink.records)) := by
  obtain ⟨deeds, drained, session, hreturns, hleads⟩ := play_keeps history ⟨[], .empty⟩
  refine ⟨deeds, drained, session, hreturns, ?_⟩
  intro hd
  have hacc := hleads.accounted [] [] hd .nil
  rw [List.nil_append, List.nil_append] at hacc
  exact ⟨hacc.records_known, fun span hs => (hacc.invariant span hs).settled⟩

/-- A completion whose error first records another one and completes another span; the
records are taken out, and further calls come too late. -/
def nestedHistory : List Use :=
  let now : Moment := ⟨⟨1, 0, by decide⟩, 20⟩
  [.call (.start "outer" "first" 0 ⟨0, 0, by decide⟩),
   .call (.start "inner" "second" 10 ⟨0, 0, by decide⟩),
   .call (.completeWithError "outer"
     [.recordError "outer" [] (.causedBy (.root "cause") "told"), .complete "inner" now]
     (.root "refused") now),
   .drain,
   .call (.recordError "inner" [] (.root "late")),
   .call (.complete "outer" now)]

theorem history_accounted_of_nested :
    ∃ deeds drained session, (play nestedHistory).Returns ⟨[], .empty⟩ (deeds, drained) session ∧
      keptFaults "outer" deeds = [.causedBy (.root "cause") "told"] ∧
      completions "outer" deeds = [(some (.root "refused"), true), (none, false)] ∧
      ∀ span ∈ session.spans, Settled span.id deeds (drained ++ session.sink.records) := by
  obtain ⟨deeds, drained, session, hreturns, h⟩ := history_accounted nestedHistory
  have hrun : ((play nestedHistory).run ⟨[], .empty⟩).value =
      (.returned (deeds, drained), session) := hreturns
  have hdistinct : (ids ((play nestedHistory).run ⟨[], .empty⟩).value.2.spans).Nodup := by
    decide +kernel
  have hvalue : (match ((play nestedHistory).run ⟨[], .empty⟩).value.1 with
      | .returned (deeds, _) => (keptFaults "outer" deeds, completions "outer" deeds)
      | .unwound _ => ([], [])) =
      ([.causedBy (.root "cause") "told"], [(some (.root "refused"), true), (none, false)]) := by
    decide +kernel
  rw [hrun] at hdistinct hvalue
  obtain ⟨hkept, hcompletions⟩ := Prod.mk.inj hvalue
  exact ⟨deeds, drained, session, hreturns, hkept, hcompletions, (h hdistinct).2⟩

end Instrumentation.Telemetry
