/-
  Points in time and spans of it

  A timestamp is a point on the wall clock, a duration the time between two
  readings of a clock that never goes back. Both are exact to the nanosecond.
-/

namespace Instrumentation.Time

def nanosPerSecond : Nat := 1000000000

theorem nanosPerSecond_pos : 0 < nanosPerSecond := by decide

/-- A point on the wall clock: seconds since the first moment of 1970, and
nanoseconds on top of them. -/
structure Timestamp where
  seconds : Int
  nanos : Nat
  nanos_lt : nanos < nanosPerSecond := by decide
  deriving DecidableEq, Repr

/-- The timestamp that lies `nanos` after a whole second. -/
def Timestamp.after (seconds : Int) (nanos : Nat) : Timestamp :=
  ⟨seconds + nanos / nanosPerSecond, nanos % nanosPerSecond, Nat.mod_lt _ (by decide)⟩

structure Duration where
  seconds : UInt64
  nanos : Nat
  nanos_lt : nanos < nanosPerSecond := by decide
  deriving DecidableEq, Repr

namespace Duration

def ofNanos (nanos : Nat) : Duration :=
  ⟨.ofNat (nanos / nanosPerSecond), nanos % nanosPerSecond, Nat.mod_lt _ (by decide)⟩

/-- The whole milliseconds of a duration, modulo 2 ^ 64. -/
def wholeMs (duration : Duration) : UInt64 :=
  .ofNat (duration.seconds.toNat * 1000 + duration.nanos / 1000000)

end Duration

/-- A reading of both clocks. -/
structure Moment where
  /-- The wall clock. -/
  wall : Timestamp
  /-- Nanoseconds on the clock that never goes back. -/
  steady : Nat
  deriving DecidableEq, Repr

/-- The time from a reading of the steady clock to a later moment. -/
def Moment.since (now : Moment) (earlier : Nat) : Duration :=
  .ofNanos (now.steady - earlier)

end Instrumentation.Time
