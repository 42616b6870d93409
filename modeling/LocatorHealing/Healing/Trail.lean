set_option autoImplicit false
set_option relaxedAutoImplicit false

/-!
The states that a lookup passes through while it is healed, and which of them may follow which.
-/

namespace LocatorHealing.Healing

inductive State where
  | firstLookup
  | logAndReturn
  | attemptHeal
  | executeScript
  | pollResult
  | retryWithHealedLocator
  | returnHealedResult
  | returnFirstFailure
  deriving DecidableEq, Repr

def State.name : State → String
  | .firstLookup => "attempt_original"
  | .logAndReturn => "log_and_return"
  | .attemptHeal => "attempt_heal"
  | .executeScript => "execute_script"
  | .pollResult => "poll_result"
  | .retryWithHealedLocator => "retry_with_healed_locator"
  | .returnHealedResult => "return_healed_result"
  | .returnFirstFailure => "return_original_failure"

/-- The states that may follow a state. A state that none follows is a last one. -/
inductive State.Leads : State → State → Prop where
  | found : Leads .firstLookup .logAndReturn
  | missed : Leads .firstLookup .attemptHeal
  | given : Leads .attemptHeal .executeScript
  | ran : Leads .executeScript .pollResult
  | polled : Leads .pollResult .retryWithHealedLocator
  | healed : Leads .retryWithHealedLocator .returnHealedResult
  | unhealed : Leads .firstLookup .returnFirstFailure
  | unlogged : Leads .logAndReturn .returnFirstFailure
  | refused : Leads .attemptHeal .returnFirstFailure
  | failed : Leads .executeScript .returnFirstFailure
  | unpolled : Leads .pollResult .returnFirstFailure
  | missedAgain : Leads .retryWithHealedLocator .returnFirstFailure

def State.isLast : State → Bool
  | .logAndReturn | .returnHealedResult | .returnFirstFailure => true
  | _ => false

end LocatorHealing.Healing
