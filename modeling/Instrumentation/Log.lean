import Instrumentation.Text.Quoted
/-
  Log events

  The events that a computation logs are part of its result: a `Logged` value is a
  value together with the events that producing it logged, in order. What is done
  with them, at which level they are shown and in which form, is decided by
  whoever runs the computation.
-/

namespace Instrumentation.Log

inductive Level where
  | error
  | warn
  | info
  | debug
  | trace
  deriving DecidableEq, Repr, Inhabited

namespace Level

/-- Levels from the most severe to the least. -/
def rank : Level → Nat
  | error => 0
  | warn => 1
  | info => 2
  | debug => 3
  | trace => 4

def text : Level → String
  | error => "ERROR"
  | warn => "WARN"
  | info => "INFO"
  | debug => "DEBUG"
  | trace => "TRACE"

/-- Whether an event of the level is shown where everything down to `least` is. -/
def shownAt (level least : Level) : Bool := level.rank ≤ least.rank

end Level

inductive Field where
  /-- Text that is shown as it is. -/
  | plain (text : String)
  /-- Text that is quoted where fields are written in a line. -/
  | quoted (text : String)
  | number (n : Nat)
  | flag (b : Bool)
  | texts (items : List String)
  deriving DecidableEq, Repr

def Field.text : Field → String
  | plain text => text
  | quoted text => text
  | number n => toString n
  | flag b => if b then "true" else "false"
  | texts items => Text.quotedList items

/-- The part of the program that logged an event. -/
inductive Origin where
  | document
  | tree
  | builder
  | model
  | store
  | span
  | lineFile
  /-- Records that are themselves the content of the log. -/
  | telemetry
  | commandLine
  | configDirectory
  deriving DecidableEq, Repr

/-- The path under which the part is known to filters and in output. -/
def Origin.path : Origin → String
  | document => "tracehook_core::policy::document"
  | tree => "tracehook_core::policy::tree"
  | builder => "tracehook_core::policy::builder"
  | model => "tracehook_core::policy::model"
  | store => "tracehook_core::policy::store"
  | span => "tracehook_core::telemetry::span"
  | lineFile => "tracehook_core::telemetry::writer"
  | telemetry => "tracehook::telemetry"
  | commandLine => "tracehook"
  | configDirectory => "tracehook::config_dir"

structure Event where
  level : Level
  origin : Origin
  message : String
  fields : List (String × Field) := []
  deriving DecidableEq, Repr

end Log

open Log in
/-- A value and the events that producing it logged, in order. -/
structure Logged (α : Type) where
  value : α
  events : List Event

namespace Logged

variable {α β σ : Type}

instance : Monad Logged where
  pure a := ⟨a, []⟩
  bind x f := ⟨(f x.value).value, x.events ++ (f x.value).events⟩

def event (e : Log.Event) : Logged Unit := ⟨(), [e]⟩

@[simp] theorem value_pure (a : α) : (pure a : Logged α).value = a := rfl

@[simp] theorem events_pure (a : α) : (pure a : Logged α).events = [] := rfl

@[simp] theorem value_bind (x : Logged α) (f : α → Logged β) :
    (x >>= f).value = (f x.value).value := rfl

@[simp] theorem events_bind (x : Logged α) (f : α → Logged β) :
    (x >>= f).events = x.events ++ (f x.value).events := rfl

@[simp] theorem value_event (e : Log.Event) : (event e).value = () := rfl

@[simp] theorem events_event (e : Log.Event) : (event e).events = [e] := rfl

/-- Carries a state through a list, logging on the way. -/
def foldl (f : σ → α → Logged σ) (s : σ) (xs : List α) : Logged σ :=
  go s [] xs
where
  /-- `log` holds the events so far, the latest first. -/
  go (s : σ) (log : List Log.Event) : List α → Logged σ
    | [] => ⟨s, log.reverse⟩
    | x :: rest =>
      let step := f s x
      go step.value (step.events.reverse ++ log) rest

/-- The value of a logged fold is the fold of the values. -/
@[simp] theorem value_foldl (f : σ → α → Logged σ) (s : σ) (xs : List α) :
    (foldl f s xs).value = xs.foldl (fun s x => (f s x).value) s := by
  suffices h : ∀ log, (foldl.go f s log xs).value = xs.foldl (fun s x => (f s x).value) s from
    h []
  induction xs generalizing s with
  | nil => intro log; rfl
  | cons x rest ih => intro log; exact ih _ _

end Logged

end Instrumentation
