import LocatorHealing.TimeScale.Basic

set_option autoImplicit false
set_option relaxedAutoImplicit false

/-!
Times as exact numbers: no sum is rounded, and none is too large.
-/

namespace LocatorHealing.TimeScale

/-- Seconds as fractions. -/
instance : TimeScale Rat where
  zero := 0
  ofSeconds n := n
  add? a b := some (a + b)
  sub? a b := some (a - b)
  lt a b := decide (a < b)
  le a b := decide (a ≤ b)
  text a := toString a.num ++ "/" ++ toString a.den
  beyond? _ := none

variable (a b : Rat)

@[simp] theorem add?_rat : add? a b = some (a + b) := rfl

@[simp] theorem sub?_rat : sub? a b = some (a - b) := rfl

@[simp] theorem isNegative_rat : isNegative a = true ↔ a < 0 := by
  simp [isNegative, lt, zero]

theorem sleepFault?_rat (isBounded : Bool) :
    sleepFault? isBounded a = if isNegative a then some .negativeSleep else none := by
  cases isBounded with
  | true => rfl
  | false => rfl

@[simp] theorem isOver_rat : isOver a = true ↔ a ≤ 0 := by
  simp [isOver, le, zero]

end LocatorHealing.TimeScale
