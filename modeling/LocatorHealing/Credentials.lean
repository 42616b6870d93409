import LocatorHealing.Options
import LocatorHealing.Variables

set_option autoImplicit false
set_option relaxedAutoImplicit false

/-!
Which user and access key a launch authenticates with. Each half comes from its environment
variable or else from the healing options; if one of the two halves is then missing or empty, the
pair of the test runner is taken, if that one is complete.
-/

namespace LocatorHealing

structure Credentials where
  user : String
  key : String
  deriving DecidableEq, Repr

namespace Credentials

def complete? : Option String → Option String → Option Credentials
  | some user, some key => if user ≠ "" ∧ key ≠ "" then some ⟨user, key⟩ else none
  | _, _ => none

def resolve? (config : LaunchConfig) (options : HealingOptions) (vars : Variables) :
    Option Credentials :=
  let user := (vars.filled? "SELFHEAL_USERNAME").or options.user
  let key := (vars.filled? "SELFHEAL_ACCESS_KEY").or options.key
  (complete? user key).or (complete? config.user config.key)

end Credentials

end LocatorHealing
