import Instrumentation.Telemetry.Record
/-
  Calls on a span, access by access

  The calls on one span share a cell for its error, which is written at most once,
  and two flags. Every call is a short run of accesses to them, each of which
  happens at once: read whether the span has ended, fill the cell, raise the flag
  that makes the error visible unless the span has ended, raise the flag that ends
  the span. Calls that run at the same time differ from calls that run one after
  the other only in how these accesses are mixed.
-/

namespace Instrumentation.Telemetry

/-- What the calls on a span share. -/
structure Shared where
  /-- The error that was stored first. -/
  stored : Option Fault := none
  /-- Whether the stored error is reported. -/
  errored : Bool := false
  ended : Bool := false
  deriving DecidableEq, Repr

/-- The error that completion reports, or has reported. -/
def Shared.error? (shared : Shared) : Option Fault :=
  if shared.errored then shared.stored else none

/-- What a completion came to. -/
inductive Completion where
  /-- This call ended the span; it reports the error, if there is one. -/
  | emitted (reported : Option Fault)
  | alreadyEnded
  deriving DecidableEq, Repr

/-- How far a call has come: the access that it makes next, or its answer. Where
`completes` holds the call goes on to end the span. -/
inductive Stage where
  /-- Reads whether the span has ended. -/
  | check (fault : Fault) (completes : Bool)
  /-- Fills the cell, unless it is full. -/
  | store (fault : Fault) (completes : Bool)
  /-- Makes the stored error visible, unless the span has ended. -/
  | publish (completes : Bool)
  /-- Ends the span; `kept` says what became of an error recorded before. -/
  | finish (kept : Option Bool)
  | recorded (kept : Bool)
  | completed (kept : Option Bool) (completion : Completion)
  deriving DecidableEq, Repr

namespace Stage

def afterError (kept completes : Bool) : Stage :=
  if completes then finish (some kept) else recorded kept

/-- How many accesses a call makes yet, at most. -/
def rank : Stage → Nat
  | check _ _ => 4
  | store _ _ => 3
  | publish _ => 2
  | finish _ => 1
  | recorded _ | completed _ _ => 0

theorem rank_le (stage : Stage) : stage.rank ≤ 4 := by
  cases stage <;> simp [rank]

theorem rank_afterError_le (kept completes : Bool) : (afterError kept completes).rank ≤ 1 := by
  cases completes <;> simp [afterError, rank]

def stores : Stage → Bool
  | store _ _ => true
  | check _ _ | publish _ | finish _ | recorded _ | completed _ _ => false

def kept : Stage → Bool
  | recorded kept => kept
  | completed kept _ => kept.getD false
  | check _ _ | store _ _ | publish _ | finish _ => false

/-- What a call that ended its span reports. -/
def report? : Stage → Option (Option Fault)
  | completed _ (.emitted reported) => some reported
  | completed _ .alreadyEnded => none
  | check _ _ | store _ _ | publish _ | finish _ | recorded _ => none

end Stage

inductive Remark where
  | errorAfterEnd
  | errorTaken
  | endedMeanwhile
  | alreadyEnded
  deriving DecidableEq, Repr

def Remark.text : Remark → String
  | errorAfterEnd => "Ignoring error recorded after span completion"
  | errorTaken => "Span already has an error, keeping the first"
  | endedMeanwhile => "Span completed while the error was being recorded"
  | alreadyEnded => "Span already ended, ignoring completion"

/-- What an access leaves behind. -/
structure Progress where
  shared : Shared
  stage : Stage
  remarks : List Remark := []
  deriving DecidableEq, Repr

namespace Shared

/-- Makes the next access of a call. -/
def step (shared : Shared) : Stage → Progress
  | .check fault completes =>
    if shared.ended then ⟨shared, .afterError false completes, [.errorAfterEnd]⟩
    else ⟨shared, .store fault completes, []⟩
  | .store fault completes =>
    match shared.stored with
    | some _ => ⟨shared, .afterError false completes, [.errorTaken]⟩
    | none => ⟨{ shared with stored := some fault }, .publish completes, []⟩
  | .publish completes =>
    if shared.errored || shared.ended then
      ⟨shared, .afterError false completes, [.endedMeanwhile]⟩
    else ⟨{ shared with errored := true }, .afterError true completes, []⟩
  | .finish kept =>
    if shared.ended then ⟨shared, .completed kept .alreadyEnded, [.alreadyEnded]⟩
    else ⟨{ shared with ended := true }, .completed kept (.emitted shared.error?), []⟩
  | .recorded kept => ⟨shared, .recorded kept, []⟩
  | .completed kept completion => ⟨shared, .completed kept completion, []⟩

/-- Every access brings a call nearer to its answer. -/
theorem rank_step_le (shared : Shared) (stage : Stage) :
    (shared.step stage).stage.rank ≤ stage.rank - 1 := by
  cases stage with
  | check fault completes =>
    simp only [step]
    split
    · exact Nat.le_trans (Stage.rank_afterError_le false completes) (by simp [Stage.rank])
    · exact Nat.le_refl 3
  | store fault completes =>
    simp only [step]
    split
    · exact Nat.le_trans (Stage.rank_afterError_le false completes) (by simp [Stage.rank])
    · exact Nat.le_refl 2
  | publish completes =>
    simp only [step]
    split
    · exact Stage.rank_afterError_le false completes
    · exact Stage.rank_afterError_le true completes
  | finish kept =>
    simp only [step]
    split <;> exact Nat.le_refl 0
  | recorded kept | completed kept completion => exact Nat.le_refl 0

/-- Makes up to `n` accesses of a call with nothing in between. -/
def advance (shared : Shared) (stage : Stage) : Nat → Progress
  | 0 => ⟨shared, stage, []⟩
  | n + 1 =>
    let now := shared.step stage
    let later := now.shared.advance now.stage n
    { later with remarks := now.remarks ++ later.remarks }

end Shared

end Instrumentation.Telemetry
