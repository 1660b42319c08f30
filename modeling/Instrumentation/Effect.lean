import Instrumentation.Log
import Instrumentation.Guard
/-
  Computations with a state, a log and failure

  What a computation did to its state and what it logged remain when it unwinds.
  A guard around it contains an ordinary failure and nothing else.
-/

namespace Instrumentation

open Guard (Outcome Payload Recovered)

/-- A computation over a state that logs events and may unwind. -/
def Effect (σ α : Type) : Type := σ → Logged (Outcome α × σ)

namespace Effect

variable {σ τ α β : Type}

def run (x : Effect σ α) (s : σ) : Logged (Outcome α × σ) := x s

def andThen (x : Effect σ α) (f : α → Effect σ β) : Effect σ β := fun s =>
  match x s with
  | ⟨(.returned a, s), events⟩ =>
    let next := f a s
    ⟨next.value, events ++ next.events⟩
  | ⟨(.unwound p, s), events⟩ => ⟨(.unwound p, s), events⟩

instance : Monad (Effect σ) where
  pure a := fun s => ⟨(.returned a, s), []⟩
  bind := andThen

def state : Effect σ σ := fun s => ⟨(.returned s, s), []⟩
def change (f : σ → σ) : Effect σ Unit := fun s => ⟨(.returned (), f s), []⟩
def event (e : Log.Event) : Effect σ Unit := fun s => ⟨(.returned (), s), [e]⟩
def ofLogged (x : Logged α) : Effect σ α := fun s => ⟨(.returned x.value, s), x.events⟩
def ofOutcome (x : Outcome α) : Effect σ α := fun s => ⟨(x, s), []⟩

/-- A change of the state with a result. -/
def ofChange (f : σ → α × σ) : Effect σ α := fun s => ⟨(.returned (f s).1, (f s).2), []⟩

/-- Contains an ordinary failure. -/
def contained (x : Effect σ α) : Effect σ (Except Recovered α) := fun s =>
  match x s with
  | ⟨(outcome, s), events⟩ => ⟨(outcome.contained, s), events⟩

/-- A computation on a part of a state. -/
def onPart (part : τ → σ) (replace : τ → σ → τ) (x : Effect σ α) : Effect τ α := fun t =>
  match x (part t) with
  | ⟨(outcome, s), events⟩ => ⟨(outcome, replace t s), events⟩

theorem run_pure (a : α) (s : σ) : (pure a : Effect σ α).run s = ⟨(.returned a, s), []⟩ := rfl

theorem run_bind_returned {x : Effect σ α} {s s' : σ} {a : α} {events : List Log.Event}
    (h : x.run s = ⟨(.returned a, s'), events⟩) (f : α → Effect σ β) :
    (x >>= f).run s = ⟨((f a).run s').value, events ++ ((f a).run s').events⟩ := by
  show andThen x f s = _
  unfold andThen
  rw [show x s = _ from h]
  rfl

theorem run_bind_unwound {x : Effect σ α} {s s' : σ} {p : Payload} {events : List Log.Event}
    (h : x.run s = ⟨(.unwound p, s'), events⟩) (f : α → Effect σ β) :
    (x >>= f).run s = ⟨(.unwound p, s'), events⟩ := by
  show andThen x f s = _
  unfold andThen
  rw [show x s = _ from h]

end Effect

end Instrumentation
