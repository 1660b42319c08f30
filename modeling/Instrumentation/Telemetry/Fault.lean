/-
  Errors and what led to them

  An error may have a source, the error that led to it, which may have one in its
  turn. A report names the sources from the nearest on, so that its list of causes
  and the text of the error itself say what the whole chain says.
-/

namespace Instrumentation.Telemetry

/-- An error as it is reported. -/
inductive Fault where
  | root (message : String)
  | causedBy (source : Fault) (message : String)
  deriving DecidableEq, Repr

namespace Fault

def message : Fault → String
  | root message => message
  | causedBy _ message => message

def source? : Fault → Option Fault
  | root _ => none
  | causedBy source _ => some source

/-- The texts of the errors that led to this one, the nearest first. -/
def causes : Fault → List String
  | root _ => []
  | causedBy source _ => source.message :: source.causes

/-- The error that `n` steps from an error to its source come to. -/
def ancestor? (fault : Fault) : Nat → Option Fault
  | 0 => some fault
  | n + 1 => fault.source?.bind (ancestor? · n)

/-- The error of this text that errors of these texts led to, the nearest first. -/
def ofTexts (message : String) : List String → Fault
  | [] => .root message
  | cause :: causes => .causedBy (ofTexts cause causes) message

/-- Causes are listed in the order in which the walk along the sources meets them. -/
theorem causes_getElem? (fault : Fault) (n : Nat) :
    fault.causes[n]? = (fault.ancestor? (n + 1)).map message := by
  induction fault generalizing n with
  | root => simp [causes, ancestor?, source?]
  | causedBy source _ ih =>
    cases n with
    | zero => simp [causes, ancestor?, source?]
    | succ n => simpa [causes, ancestor?, source?] using ih n

@[simp] theorem message_ofTexts (message : String) (causes : List String) :
    (ofTexts message causes).message = message := by
  cases causes <;> rfl

@[simp] theorem causes_ofTexts (message : String) (causes : List String) :
    (ofTexts message causes).causes = causes := by
  induction causes generalizing message with
  | nil => rfl
  | cons cause causes ih => simp [ofTexts, Fault.causes, ih]

/-- An error is what its text and its list of causes say. -/
@[simp] theorem ofTexts_causes (fault : Fault) : ofTexts fault.message fault.causes = fault := by
  induction fault with
  | root => rfl
  | causedBy source message ih =>
    change causedBy (ofTexts source.message source.causes) message = _
    rw [ih]

end Fault

end Instrumentation.Telemetry
