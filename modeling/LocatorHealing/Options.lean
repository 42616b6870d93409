import LocatorHealing.Fault
import LocatorHealing.Validation.Scalar

set_option autoImplicit false
set_option relaxedAutoImplicit false

/-!
What a user sets for one run: whether healing is wanted, the connection of the surrounding test
runner, and the identity that instrumentation events carry.
-/

namespace LocatorHealing

open Validation

/-- The user's wish for healing, with credentials of its own if given. -/
structure HealingOptions where
  selfHeal : Bool := false
  user : Option String := none
  key : Option String := none
  deriving DecidableEq, Repr

/-- The connection of the surrounding test runner. -/
structure LaunchConfig where
  hostname : Option String := none
  user : Option String := none
  key : Option String := none
  deriving DecidableEq, Repr

/-- The identity that instrumentation events carry. -/
structure RunConfig where
  userName : Option String := none
  accessKey : Option String := none
  framework : Option String := none
  buildName : Option String := none
  deriving DecidableEq, Repr

def HealingOptions.check : Json → Checked HealingOptions :=
  record "HealingOptions" fun m =>
    HealingOptions.mk <$> withDefault m ⟨"selfHeal", "self_heal"⟩ flag false
      <*> optional m (.simple "user") text
      <*> optional m (.simple "key") text

def HealingOptions.ofJson (v : Json) : Except Fault HealingOptions :=
  (HealingOptions.check v).orFault "HealingOptions"

def LaunchConfig.check : Json → Checked LaunchConfig :=
  record "LaunchConfig" fun m =>
    LaunchConfig.mk <$> optional m (.simple "hostname") text
      <*> optional m (.simple "user") text
      <*> optional m (.simple "key") text

def LaunchConfig.ofJson (v : Json) : Except Fault LaunchConfig :=
  (LaunchConfig.check v).orFault "LaunchConfig"

def RunConfig.check : Json → Checked RunConfig :=
  record "RunConfig" fun m =>
    RunConfig.mk <$> optional m ⟨"userName", "user_name"⟩ text
      <*> optional m ⟨"accessKey", "access_key"⟩ text
      <*> optional m (.simple "framework") text
      <*> optional m ⟨"buildName", "build_name"⟩ text

def RunConfig.ofJson (v : Json) : Except Fault RunConfig :=
  (RunConfig.check v).orFault "RunConfig"

end LocatorHealing
