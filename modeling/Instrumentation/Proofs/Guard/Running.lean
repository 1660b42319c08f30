import Instrumentation.Effect
/-
  Running computations with a state, a log and failure

  What a computation that is put together comes to, given what its parts come to. Each
  lemma takes a run of a part as an equation, so a run of the whole is followed step by
  step without opening the definitions.

  What is proved:
    1. `run_bind`, `run_bind_pure` — going on with what a computation returned.
    2. `leaves_bind` — what holds of the state that is left, whether it returns or not.
    3. `run_contained`, `run_onPart` — under a guard, and on a part of a state.
-/

namespace Instrumentation.Effect

open Guard (Outcome Payload Recovered)

variable {σ τ α β : Type}

theorem run_bind {x : Effect σ α} {f : α → Effect σ β} {s s' : σ} {a : α}
    {events more : List Log.Event} {value : Outcome β × σ}
    (hx : x.run s = ⟨(.returned a, s'), events⟩) (hf : (f a).run s' = ⟨value, more⟩) :
    (x >>= f).run s = ⟨value, events ++ more⟩ := by
  rw [run_bind_returned hx, hf]

theorem run_bind_pure {x : Effect σ α} {s s' : σ} {a : α} {events : List Log.Event}
    (hx : x.run s = ⟨(.returned a, s'), events⟩) (f : α → β) :
    (x >>= fun a => pure (f a)).run s = ⟨(.returned (f a), s'), events⟩ := by
  rw [run_bind_returned hx, run_pure, List.append_nil]

/-- What holds of the state that is left, whether a computation returns or unwinds. -/
theorem leaves_bind {P : σ → Prop} {x : Effect σ α} {f : α → Effect σ β} {s : σ}
    (hx : P (x.run s).value.2) (hf : ∀ a s', P s' → P ((f a).run s').value.2) :
    P ((x >>= f).run s).value.2 := by
  rcases hrun : x.run s with ⟨⟨outcome, s'⟩, events⟩
  rw [hrun] at hx
  cases outcome with
  | returned a =>
    rw [run_bind_returned hrun]
    exact hf a s' hx
  | unwound p =>
    rw [run_bind_unwound hrun]
    exact hx

theorem run_contained {x : Effect σ α} {s s' : σ} {outcome : Outcome α} {events : List Log.Event}
    (h : x.run s = ⟨(outcome, s'), events⟩) :
    x.contained.run s = ⟨(outcome.contained, s'), events⟩ := by
  rw [run, contained, show x s = _ from h]

theorem run_onPart {x : Effect σ α} {part : τ → σ} {replace : τ → σ → τ} {t : τ}
    {outcome : Outcome α} {s : σ} {events : List Log.Event}
    (h : x.run (part t) = ⟨(outcome, s), events⟩) :
    (onPart part replace x).run t = ⟨(outcome, replace t s), events⟩ := by
  rw [run, onPart, show x (part t) = _ from h]

end Instrumentation.Effect
