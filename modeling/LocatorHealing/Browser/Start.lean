import LocatorHealing.Action

set_option autoImplicit false
set_option relaxedAutoImplicit false

/-!
Starting a browser that is ready for healing: on a hub if one is named, else by the driver of the
browser's family.
-/

namespace LocatorHealing.Browser

/-- How browsers are started. -/
structure Launch where
  hub : Json := .null
  headless : Bool := false
  pageLoadTimeout : Json := .num (.int 30)

variable {ε τ : Type} [Outside ε τ] [TimeScale τ] [Defaults]

def Launch.site (l : Launch) (options : Options) : Site :=
  if l.hub.truthy then .hub l.hub else .here options.browser

/-- Start a browser with capabilities, as a session with a name. -/
def Launch.start (l : Launch) (capabilities : Json) (name : Option String) :
    Action ε τ (Session ε τ) := do
  let options ← Action.ofExcept (Options.build l.headless capabilities)
  let site := l.site options
  let driver ← Action.perform (.showing (.started site options) (Outside.start site options))
  Action.note (.pageLoadTimeout l.pageLoadTimeout)
  Action.note (.implicitWait (.num (.int 0)))
  return { sessionId := driver.sessionId, capabilities := driver.capabilities, name }

end LocatorHealing.Browser
