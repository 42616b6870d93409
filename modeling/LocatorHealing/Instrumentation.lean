import LocatorHealing.Authentication
import LocatorHealing.Service.Http

set_option autoImplicit false
set_option relaxedAutoImplicit false

/-!
What becomes of an authentication: a warning to the user, who is warned of each thing once, and
an event for the funnel. Instrumentation never fails the launch.
-/

namespace LocatorHealing

/-- Where events go. -/
inductive EventSink (τ : Type) where
  /-- Nowhere. -/
  | silent
  /-- To a sink of the caller's own. -/
  | outside
  /-- To a URL. -/
  | http (url : String) (timeout : τ)

namespace Instrumentation

variable {ε τ : Type} [Outside ε τ] [TimeScale τ]

/-- Hand an event to a sink. Sending an event to a URL may fail, which is only logged. -/
def emit (sink : EventSink τ) (name : String) (properties : Json) : Action ε τ Unit := do
  match sink with
  | .silent =>
    Action.log .debug
      ("Instrumentation event " ++ name ++ " dropped, no sink configured")
  | .outside =>
    Action.perform (.showing (.emitted name properties) (Outside.emit name properties))
  | .http url timeout =>
    match ← Action.attempt (Action.perform (Http.post url
        (.obj [("event_type", .str name), ("event_properties", properties)])
        [("Content-Type", .str "application/json")] timeout)) with
    | .ok _ => return ()
    | .error fault =>
      Action.log .debug ("Could not send instrumentation event " ++ name ++ ": " ++ fault.message)

def warnOnce (message : String) : Action ε τ Unit := do
  if (← Action.read World.warned).contains message then return ()
  else
    Action.modify fun w => { w with warned := w.warned ++ [message] }
    Action.log .warning message

def warnIf (wanted : Bool) (message : String) : Action ε τ Unit :=
  if wanted then warnOnce message else return ()

/-- The events of the funnel. -/
inductive FunnelEvent where
  | serviceDown
  | invalidAuth
  | authFailure
  | initSuccessful
  | initFailed
  deriving DecidableEq, Repr

def FunnelEvent.name : FunnelEvent → String
  | .serviceDown => "HealingServiceDown"
  | .invalidAuth => "HealingInvalidAuthResponse"
  | .authFailure => "HealingAuthFailure"
  | .initSuccessful => "HealingInitSuccessful"
  | .initFailed => "HealingInitFailed"

def send (sink : EventSink τ) (run : RunConfig) (event : FunnelEvent) : Action ε τ Unit :=
  emit sink event.name
    (.obj [("userName", Json.ofText? run.userName), ("framework", Json.ofText? run.framework),
      ("buildName", Json.ofText? run.buildName)])

def reaches (status : Option Int) (bound : Int) : Bool :=
  match status with
  | some n => bound ≤ n
  | none => false

def isUnset (status : Option Int) : Bool :=
  status == none || status == some 0

def isFilled (s : Option String) : Bool :=
  (s.filter (· ≠ "")).isSome

def authenticationFailure (sink : EventSink τ) (status : Option Int) (run : RunConfig)
    (selfHeal : Bool) : Action ε τ Unit := do
  if reaches status 500 then
    warnIf selfHeal
      "Something went wrong. Disabling healing for this session. Please try again later."
    send sink run .serviceDown
  else
    warnIf selfHeal "Authentication Failed. Disabling Healing for this session."
    send sink run .authFailure

def authenticationSuccess (sink : EventSink τ) (enabled : Bool) (run : RunConfig)
    (selfHeal : Bool) : Action ε τ Unit := do
  if enabled then send sink run .initSuccessful
  else warnIf selfHeal "Healing is not enabled for your group, please contact the admin"

def initializationFailure (sink : EventSink τ) (status : Option Int) (run : RunConfig)
    (selfHeal : Bool) : Action ε τ Unit := do
  if reaches status 400 then send sink run .initFailed
  else if isUnset status && selfHeal then send sink run .invalidAuth
  warnIf selfHeal "Authentication Failed. Healing will be disabled for this session."

def report (sink : EventSink τ) (auth : AuthResult) (run : RunConfig) (selfHeal : Bool) :
    Action ε τ Unit := do
  if auth.message = some Authentication.upgradeMessage then
    warnIf selfHeal
      "Please upgrade the selfheal client to the latest version to use the self-healing feature."
  else if !auth.isAuthenticated then authenticationFailure sink auth.status run selfHeal
  else if isFilled auth.userId && isFilled auth.groupId then
    authenticationSuccess sink (auth.isHealingEnabled == some true) run selfHeal
  else if isUnset auth.status || reaches auth.status 400 then
    initializationFailure sink auth.status run selfHeal
  else return ()

/-- Tell the user and the funnel about a result; a fault on the way is only logged. -/
def handle (sink : EventSink τ) (auth : AuthResult) (run : RunConfig) (selfHeal : Bool) :
    Action ε τ Unit := do
  match ← Action.attempt (report sink auth run selfHeal) with
  | .ok () => return ()
  | .error fault =>
    Action.log .debug ("Error in handling healing instrumentation: " ++ fault.message)

end Instrumentation

end LocatorHealing
