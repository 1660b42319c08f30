import Instrumentation.Telemetry.Span
/-
  Delivery to a sink that keeps records

  What is proved:
    1. `Effect.Returns` — a computation that returns, with its answer and the state it
       leaves; a chain of such computations returns (`Returns.bind`).
    2. `Span.returns_deliver` — a completed span hands over its dependency record and
       right behind it the record of its error, if there is one, and nothing else.
-/

namespace Instrumentation

namespace Effect

variable {σ τ α β : Type}

/-- The computation returns an answer and leaves a state. What it logs is left open. -/
def Returns (x : Effect σ α) (s : σ) (a : α) (s' : σ) : Prop :=
  (x.run s).value = (.returned a, s')

theorem returns_pure (a : α) (s : σ) : (pure a : Effect σ α).Returns s a s := rfl

theorem returns_state (s : σ) : (state : Effect σ σ).Returns s s s := rfl

theorem returns_change (f : σ → σ) (s : σ) : (change f).Returns s () (f s) := rfl

theorem returns_event (e : Log.Event) (s : σ) : (event e).Returns s () s := rfl

theorem returns_ofLogged (x : Logged α) (s : σ) : (ofLogged x).Returns s x.value s := rfl

theorem returns_ofChange (f : σ → α × σ) (s : σ) :
    (ofChange f).Returns s (f s).1 (f s).2 := rfl

theorem Returns.bind {x : Effect σ α} {f : α → Effect σ β} {s s' s'' : σ} {a : α} {b : β}
    (hx : x.Returns s a s') (hf : (f a).Returns s' b s'') : (x >>= f).Returns s b s'' := by
  cases h : x.run s with
  | mk value events =>
    obtain rfl : value = (.returned a, s') := by simpa [Returns, h] using hx
    rw [Returns, run_bind_returned h]
    exact hf

/-- Two computations of which one is made have one continuation. -/
theorem Returns.bind_ite {c : Prop} [Decidable c] {x y : Effect σ α} {f : α → Effect σ β}
    {s s' s'' : σ} {a : α} {b : β} (h : (if c then x else y).Returns s a s')
    (hf : (f a).Returns s' b s'') : (if c then x >>= f else y >>= f).Returns s b s'' := by
  by_cases hc : c
  · rw [if_pos hc] at h ⊢
    exact h.bind hf
  · rw [if_neg hc] at h ⊢
    exact h.bind hf

theorem Returns.contained {x : Effect σ α} {s s' : σ} {a : α} (h : x.Returns s a s') :
    x.contained.Returns s (.ok a) s' := by
  cases hx : x s with
  | mk value events =>
    obtain rfl : value = (.returned a, s') := by simpa [Returns, run, hx] using h
    simp only [Returns, run, Effect.contained, hx]
    rfl

theorem Returns.onPart {x : Effect σ α} {part : τ → σ} (replace : τ → σ → τ) {t : τ} {s' : σ}
    {a : α} (h : x.Returns (part t) a s') :
    (Effect.onPart part replace x).Returns t a (replace t s') := by
  cases hx : x (part t) with
  | mk value events =>
    obtain rfl : value = (.returned a, s') := by simpa [Returns, run, hx] using h
    simp only [Returns, run, Effect.onPart, hx]

end Effect

namespace Telemetry

open Time (Moment)

namespace Span

/-- The records of a completed span. -/
def records (span : Span) (reported : Option Fault) (now : Moment) : List Record :=
  span.dependency (displayName span.identity).value reported now ::
    reported.toList.map fun fault => span.exception fault now

/-- The records that a call hands over: those of the span if it ended it. -/
def handedOver (span : Span) (now : Moment) (stage : Stage) : List Record :=
  match stage.report? with
  | some reported => span.records reported now
  | none => []

/-- The record of the call comes first, and is one of a failure exactly if an error
is reported behind it. -/
theorem records_eq (span : Span) (reported : Option Fault) (now : Moment) :
    ∃ d : Dependency, span.records reported now = .dependency d ::
        (reported.toList.map fun fault => Exception.mk span.id now.wall fault).map .exception ∧
      d.spanId = span.id ∧ d.success = reported.isNone := by
  rw [List.map_map]
  exact ⟨_, rfl, rfl, rfl⟩

theorem spanId_of_mem_records {span : Span} {reported : Option Fault} {now : Moment}
    {record : Record} (h : record ∈ span.records reported now) : record.spanId = span.id := by
  rcases List.mem_cons.1 h with rfl | h
  · rfl
  · obtain ⟨fault, -, rfl⟩ := List.mem_map.1 h
    rfl

theorem spanId_of_mem_handedOver {span : Span} {now : Moment} {stage : Stage} {record : Record}
    (h : record ∈ span.handedOver now stage) : record.spanId = span.id := by
  rw [handedOver] at h
  cases hreport : stage.report? with
  | none => simp [hreport] at h
  | some reported => exact spanId_of_mem_records (by simpa [hreport] using h)

theorem returns_emit (id : String) (record : Record) (memory : Memory) :
    (emit Memory.sink id record).Returns memory () (memory.push record) :=
  (Effect.returns_change (·.push record) memory).contained.bind (Effect.returns_pure () _)

/-- A completed span hands its records over in one piece. -/
theorem returns_deliver (span : Span) (reported : Option Fault) (now : Moment) (memory : Memory) :
    (span.deliver Memory.sink reported now).Returns memory ()
      ⟨memory.records ++ span.records reported now⟩ := by
  refine (Effect.returns_ofLogged _ _).bind ((returns_emit _ _ _).bind ?_)
  cases reported with
  | none => exact Effect.returns_pure () _
  | some fault =>
    have h := returns_emit span.id (span.exception fault now)
      (memory.push (span.dependency (displayName span.identity).value (some fault) now))
    simpa [Memory.push, records] using h

end Span

end Telemetry

end Instrumentation
