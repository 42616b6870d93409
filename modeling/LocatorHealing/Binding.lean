import LocatorHealing.Session.Driver

set_option autoImplicit false
set_option relaxedAutoImplicit false

/-!
Preparing a session for healing: the service is told which token the session belongs to, and a
browser that needs a companion add-on gets it. A session whose add-on cannot be installed goes on
without it.
-/

namespace LocatorHealing.Session

variable {ε τ : Type} [Outside ε τ] [TimeScale τ]

def bindToken (service : Service ε τ) (settings : Settings τ) (sessionId : Json)
    (token : Option String) : Action ε τ Unit :=
  Action.ask service (.token sessionId token settings.serviceUrl)

def needsCompanion (s : Session ε τ) : Bool :=
  s.browserName == "firefox"

/-- The file of the companion add-on, if the settings name one and it is there. -/
def companionFile (settings : Settings τ) (files : FileTree) : Except Fault (Option FilePath) :=
  match settings.firefoxAddon.filter (· ≠ "") with
  | some path =>
    let path := FilePath.ofText path
    (files.seekFile path).map fun file? => file?.map fun _ => files.absolute path
  | none => .ok none

def installCompanion (settings : Settings τ) (session : String) : Action ε τ Bool := do
  match ← Action.ofExcept (companionFile settings (← Action.read World.files)) with
  | none =>
    let s ← Action.session session
    Action.log .warning
      ("Companion add-on not found at " ++ (Json.ofText? settings.firefoxAddon).display ++
        "; healing for session " ++ s.sessionId.display ++ " is limited to usage logging")
    return false
  | some path =>
    match ← Action.attempt (installAddon session path.text (.bool true)) with
    | .ok _ =>
      let s ← Action.session session
      Action.log .debug ("Installed companion add-on into session " ++ s.sessionId.display)
      return true
    | .error fault =>
      let s ← Action.session session
      Action.log .warning
        ("Could not install companion add-on for session " ++ s.sessionId.display ++ ": " ++
          fault.message)
      return false

end LocatorHealing.Session
