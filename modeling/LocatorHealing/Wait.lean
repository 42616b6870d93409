import LocatorHealing.Action

set_option autoImplicit false
set_option relaxedAutoImplicit false

/-!
Asking again and again until an answer is good, with a bound on the number of calls or without one
and a bound on the time. The first call is made at once whatever the bounds; a sleep between two
calls never goes past the deadline.
-/

namespace LocatorHealing.Wait

variable {ε τ α : Type}

/-- Why a wait ended, with the last answer seen. -/
inductive Ending (α : Type) where
  | satisfied (answer : α)
  | outOfCalls (answer : α)
  | outOfTime (answer : α)
  /-- The wait was watched for as many calls as it was to be, and is not over. -/
  | unfinished

def Ending.answer? : Ending α → Option α
  | .satisfied a => some a
  | .outOfCalls a => some a
  | .outOfTime a => some a
  | .unfinished => none

/-- How many calls are made at most, or, where there is no such bound, how many are watched. -/
inductive Calls where
  | atMost (n : Nat)
  | watched (n : Nat)

def Calls.count : Calls → Nat
  | .atMost n => n
  | .watched n => n

def Calls.isBound : Calls → Bool
  | .atMost _ => true
  | .watched _ => false

variable [TimeScale τ]

/-- Ask until an answer is good, the calls are used up, or the deadline has come. -/
def loop (ask : Action ε τ α) (isGood : α → Bool) (interval deadline : τ) (isBound : Bool) :
    (calls : Nat) → Action ε τ (Ending α)
  | 0 => return .unfinished
  | calls + 1 => do
    let answer ← ask
    if isGood answer then return .satisfied answer
    else if isBound && calls = 0 then return .outOfCalls answer
    else
      let remaining ← Action.timeUntil deadline
      if TimeScale.isOver remaining then return .outOfTime answer
      else
        Action.sleep (TimeScale.least interval remaining)
        loop ask isGood interval deadline isBound calls

/-- Ask until an answer is good, for at most a time from now; one call is made in any case. -/
def wait (ask : Action ε τ α) (isGood : α → Bool) (timeout interval : τ) (calls : Calls) :
    Action ε τ (Ending α) := do
  let deadline ← Action.sum (← Action.read World.clock) timeout
  loop ask isGood interval deadline calls.isBound (max 1 calls.count)

end LocatorHealing.Wait
