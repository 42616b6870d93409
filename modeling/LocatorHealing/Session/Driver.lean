import LocatorHealing.Action

set_option autoImplicit false
set_option relaxedAutoImplicit false

/-!
Commands to the driver of a session. Scripts and lookups are refused without asking the driver
once the session is closed or lost; a lookup that the driver fails is an outcome, and any other
fault is raised.
-/

namespace LocatorHealing.Session

variable {ε τ : Type} [Outside ε τ] [TimeScale τ]

def scriptCommand (key script : String) (arguments : List Json) : Call ε τ Json :=
  .showing (.driver key (.script script arguments)) (Outside.runScript key script arguments)

def findCommand (key : String) (strategy value : Json) : Call ε τ Element :=
  .showing (.driver key (.find strategy value)) (Outside.find key strategy value)

def execute (key script : String) (arguments : List Json) : Action ε τ Json := do
  let s ← Action.session key
  if s.isActive then Action.perform (scriptCommand key script arguments)
  else Action.raise (.namedSessionClosed (s.name.getD ""))

def installAddon (key path : String) (temporary : Json) : Action ε τ Json := do
  let s ← Action.session key
  if s.takesAddons then
    Action.perform
      (.showing (.driver key (.installAddon path temporary))
        (Outside.installAddon key path temporary))
  else
    Action.raise
      (.cannotInstall (if s.browserName = "" then "unknown browser" else s.browserName))

def driverLookup (key : String) (strategy value : Json) : Action ε τ Outcome := do
  let s ← Action.session key
  if s.isActive then
    match ← Action.attempt (Action.perform (findCommand key strategy value)) with
    | .ok element => return .found element
    | .error fault => if fault.isDriver then return .failed fault else Action.raise fault
  else return .failed .sessionClosed

/-- Close a session, and quit its driver. What that does to the session's id is the driver's. -/
def quit (key : String) : Action ε τ Unit := do
  Action.modifySession key fun s => { s with closed := true }
  Action.perform (.showing (.driver key .quit) (Outside.quit key))

end LocatorHealing.Session
