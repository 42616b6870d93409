import LocatorHealing.Capability.Augment
import LocatorHealing.Credentials
import LocatorHealing.Instrumentation

set_option autoImplicit false
set_option relaxedAutoImplicit false

/-!
The launcher: authenticate once, hand the result to the workers in an environment variable, and
inject healing support into the capabilities. A launch never fails because of healing; of several
named entries, each is on its own.
-/

namespace LocatorHealing

structure Launcher (ε τ : Type) where
  service : Service ε τ
  settings : Settings τ
  sink : EventSink τ

namespace Launcher

variable {ε τ : Type}

/-- The sink of a launcher that is given none: the URL for events, if the settings name one. -/
def defaultSink [TimeScale τ] (settings : Settings τ) : EventSink τ :=
  match settings.eventsUrl.filter (· ≠ "") with
  | some url => .http url (TimeScale.ofSeconds 5)
  | none => .silent

variable [Outside ε τ] [TimeScale τ]

/-- Inject healing support into one named entry. What is left of its capabilities takes their
place even if a fault ends it early. -/
def augmentEntry (l : Launcher ε τ) (auth : AuthResult) (config : LaunchConfig) (run : RunConfig)
    (options : HealingOptions) (name : String) (entry : Json) :
    Action ε τ (Json × Option Fault) := do
  match entry with
  | .obj m =>
    let capabilities := (Members.get? m "capabilities").getD .null
    let isTarget ← Action.attempt (Action.ofExcept (match capabilities with
      | .obj _ => Capability.isEligible l.settings entry
      | _ => .ok false))
    match isTarget with
    | .error fault => return (entry, some fault)
    | .ok false =>
      Action.log .debug ("Skipping healing capabilities for " ++ name)
      return (entry, none)
    | .ok true =>
      match Credentials.resolve? config options (← Action.read World.environment) with
      | none => return (entry, none)
      | some _ =>
        Instrumentation.handle l.sink auth run options.selfHeal
        let (left, fault?) ← Capability.augment l.settings auth options capabilities
        return (.obj (Members.put m "capabilities" left), fault?)
  | v => return (v, some (.noMember v.kindName "get"))

/-- Inject healing support into named entries, one after the other. -/
def augmentEntries (l : Launcher ε τ) (auth : AuthResult) (config : LaunchConfig) (run : RunConfig)
    (options : HealingOptions) : Members → Action ε τ Members
  | [] => return []
  | (name, entry) :: rest => do
    let (left, fault?) ← l.augmentEntry auth config run options name entry
    match fault? with
    | some fault =>
      Action.report options
        ("Could not add healing capabilities for " ++ name ++ ": " ++ fault.message)
    | none => pure ()
    return (name, left) :: (← l.augmentEntries auth config run options rest)

def augmentAll (l : Launcher ε τ) (auth : AuthResult) (config : LaunchConfig) (run : RunConfig)
    (options : HealingOptions) (capabilities : Json) : Action ε τ (Json × Option Fault) := do
  match capabilities with
  | .obj entries => return (.obj (← l.augmentEntries auth config run options entries), none)
  | v => return (v, some (.noMember v.kindName "items"))

/-- Inject healing support into capabilities that are not named. A single set that is not eligible
is left alone. -/
def augmentPlain (l : Launcher ε τ) (auth : AuthResult) (run : RunConfig)
    (options : HealingOptions) (capabilities : Json) : Action ε τ (Json × Option Fault) := do
  let isCandidate := match capabilities with
    | .obj _ => Capability.isEligible l.settings capabilities
    | _ => .ok true
  match isCandidate with
  | .error fault => return (capabilities, some fault)
  | .ok false => return (capabilities, none)
  | .ok true =>
    Instrumentation.handle l.sink auth run options.selfHeal
    Capability.augment l.settings auth options capabilities

/-- Authenticate, and keep the result for this launcher and for the workers. -/
def authenticate (l : Launcher ε τ) (credentials : Credentials) : Action ε τ AuthResult := do
  let auth ← Authentication.authenticate l.service l.settings (some credentials.user)
    (some credentials.key)
  Action.modify fun w => { w with launched := some auth }
  let value ← Action.ofExcept auth.exported
  Action.modify fun w =>
    { w with environment := w.environment.put AuthResult.variableName value }
  return auth

def attemptSetup (l : Launcher ε τ) (config : LaunchConfig) (run : RunConfig)
    (options : HealingOptions) (capabilities : Json) (isMultiremote : Bool) :
    Action ε τ (Json × Option Fault) := do
  match Credentials.resolve? config options (← Action.read World.environment) with
  | none =>
    Action.log .debug "No healing credentials configured, skipping setup"
    return (capabilities, none)
  | some credentials =>
    match ← Action.attempt (l.authenticate credentials) with
    | .error fault => return (capabilities, some fault)
    | .ok auth =>
      if isMultiremote then l.augmentAll auth config run options capabilities
      else l.augmentPlain auth run options capabilities

def setup (l : Launcher ε τ) (config : LaunchConfig) (run : RunConfig) (options : HealingOptions)
    (capabilities : Json) (isMultiremote : Bool) : Action ε τ Json := do
  let (left, fault?) ← l.attemptSetup config run options capabilities isMultiremote
  match fault? with
  | some fault =>
    Action.report options ("Error while initializing healing extension: " ++ fault.message)
  | none => pure ()
  return left

end Launcher

end LocatorHealing
