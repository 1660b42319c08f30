/-
  Containing failures

  A computation either returns or unwinds with a payload. A guard turns an ordinary
  payload into a recovered failure with a message and lets a termination request
  pass. `Computation` is the language of computations that a guard can meet, with
  its evaluator: values, unwinding, nested guards and sequences.
-/

namespace Instrumentation.Guard

/-- What a computation unwinds with. -/
inductive Payload where
  /-- A failure described by a fixed text. -/
  | literal (message : String)
  /-- A failure described by a text that was made for it. -/
  | text (message : String)
  /-- A failure without a description. -/
  | other
  /-- A request to shut down. -/
  | termination
  deriving DecidableEq, Repr

inductive Outcome (α : Type) where
  | returned (value : α)
  | unwound (payload : Payload)
  deriving DecidableEq, Repr

/-- A failure that was contained. -/
structure Recovered where
  message : String
  deriving DecidableEq, Repr

def Recovered.text (r : Recovered) : String := "panicked: " ++ r.message

/-- The message under which an ordinary failure is contained, in whichever of the two
ways it was described. A request to shut down has none. -/
def Payload.recovered? : Payload → Option Recovered
  | literal message => some ⟨message⟩
  | text message => some ⟨message⟩
  | other => some ⟨"non-string panic payload"⟩
  | termination => none

namespace Outcome

variable {α β : Type}

def andThen (x : Outcome α) (f : α → Outcome β) : Outcome β :=
  match x with
  | returned a => f a
  | unwound p => unwound p

/-- Contains an ordinary failure; a request to shut down leaves the guard as it
came. -/
def contained (x : Outcome α) : Outcome (Except Recovered α) :=
  match x with
  | returned a => returned (.ok a)
  | unwound p =>
    match p.recovered? with
    | some r => returned (.error r)
    | none => unwound p

end Outcome

/-- A computation under guards. -/
inductive Computation (α : Type) where
  | value (a : α)
  | unwind (payload : Payload)
  | guarded (body : Computation α)
  | sequence (bodies : List (Computation α))

inductive Result (α : Type) where
  | value (a : α)
  | contained (result : Except Recovered (Result α))
  | list (results : List (Result α))

namespace Computation

variable {α : Type}

mutual

def run : Computation α → Outcome (Result α)
  | value a => .returned (.value a)
  | unwind payload => .unwound payload
  | guarded body =>
    match body.run.contained with
    | .returned r => .returned (.contained r)
    | .unwound p => .unwound p
  | sequence bodies =>
    match runAll bodies with
    | .returned results => .returned (.list results)
    | .unwound p => .unwound p

/-- Runs computations one after the other, up to the first that unwinds. -/
def runAll : List (Computation α) → Outcome (List (Result α))
  | [] => .returned []
  | body :: rest =>
    match body.run with
    | .returned r =>
      match runAll rest with
      | .returned rs => .returned (r :: rs)
      | .unwound p => .unwound p
    | .unwound p => .unwound p

end

def runGuarded (body : Computation α) : Outcome (Except Recovered (Result α)) :=
  body.run.contained

end Computation

end Instrumentation.Guard
