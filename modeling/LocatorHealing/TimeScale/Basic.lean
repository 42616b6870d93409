import LocatorHealing.Fault
import LocatorHealing.Number.Basic

set_option autoImplicit false
set_option relaxedAutoImplicit false

/-!
Times and durations in seconds. Where they are numbers with rounding and bounds, a sum may be too
large to hold, and a duration too long for any system to sleep; on an exact scale every operation
succeeds.
-/

namespace LocatorHealing

/-- A scale on which clock readings and durations are measured. -/
class TimeScale (τ : Type) where
  zero : τ
  ofSeconds : Nat → τ
  add? : τ → τ → Option τ
  sub? : τ → τ → Option τ
  lt : τ → τ → Bool
  le : τ → τ → Bool
  text : τ → String
  /-- Why no system sleeps for a duration. -/
  beyond? : τ → Option Fault

namespace TimeScale

variable {τ : Type} [TimeScale τ]

/-- The smaller of two times; of two that do not compare, the first. -/
def least (a b : τ) : τ :=
  if lt b a then b else a

def isNegative (a : τ) : Bool :=
  lt a zero

/-- Nothing is left of a duration. -/
def isOver (a : τ) : Bool :=
  le a zero

/-- Why it is not possible to sleep for a duration, within the bounds of a system or without. -/
def sleepFault? (isBounded : Bool) (a : τ) : Option Fault :=
  (if isBounded then beyond? a else none).or (if isNegative a then some .negativeSleep else none)

/-- The first number of seconds whose nanoseconds do not fit in 64 bits, as a double. -/
def sleepBound : Float := 9223372036.854776

/-- Why no system sleeps for a number of seconds: it counts nanoseconds in 64 bits. -/
def numberBeyond? : Number → Option Fault
  | .int n =>
    if -0x8000000000000000 ≤ n * 1000000000 ∧ n * 1000000000 < 0x8000000000000000 then none
    else some (.endlessSleep true)
  | .real x =>
    if x.isNaN then some .unnumberedSleep
    else if -sleepBound ≤ x ∧ x < sleepBound then none
    else some (.endlessSleep false)

/-- Seconds as numbers that are rounded and bounded. The clock starts as a double. -/
instance : TimeScale Number where
  zero := .real 0.0
  ofSeconds n := .int n
  add? := Number.add
  sub? := Number.sub
  lt := Number.lt
  le := Number.le
  text := Number.text
  beyond? := numberBeyond?

end TimeScale

end LocatorHealing
