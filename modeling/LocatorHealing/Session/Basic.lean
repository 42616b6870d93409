import LocatorHealing.Files.Path
import LocatorHealing.Service.Basic
import LocatorHealing.Settings

set_option autoImplicit false
set_option relaxedAutoImplicit false

/-!
A browser session: the driver's identity of it, and the middlewares that every lookup runs
through. A middleware is registered under a name, and a name is registered once.
-/

namespace LocatorHealing

/-- What heals lookups: a service, the result of authenticating with it, the settings, and the
file that healing attempts are audited in, if they are. -/
structure Healing (ε τ : Type) where
  service : Service ε τ
  auth : AuthResult
  settings : Settings τ
  auditFile : Option FilePath

/-- What an intercepted lookup is handed to: healing, or something that always fails. -/
inductive Protocol (ε τ : Type) where
  | healing (h : Healing ε τ)
  | failing (fault : Fault)

/-- What a middleware of a user's own does with a lookup. -/
inductive Behaviour where
  | raise (fault : Fault)
  | fail (fault : Fault)
  /-- Look for another locator: another strategy if one is given, and more in front of the value. -/
  | redirect (strategy : Option Json) (lead : String)
  /-- Give an element without looking. -/
  | element
  /-- Look twice, and take the second outcome. -/
  | twice
  | pass

inductive Middleware (ε τ : Type) where
  | intercepting (protocol : Protocol ε τ) (options : HealingOptions)
  | custom (behaviour : Behaviour)

structure Session (ε τ : Type) where
  /-- The driver's name of the session; `null` once it is lost. -/
  sessionId : Json
  capabilities : Members
  name : Option String := none
  closed : Bool := false
  /-- The driver can install add-ons. -/
  takesAddons : Bool := true
  /-- In the order in which they were registered. -/
  middlewares : List (String × Middleware ε τ) := []

namespace Session

variable {ε τ : Type}

def isActive (s : Session ε τ) : Bool :=
  !s.closed && !s.sessionId.isNull

/-- The name of the browser in lower case; empty if the capabilities have none. -/
def browserName (s : Session ε τ) : String :=
  match s.capabilities.get? "browserName" with
  | some v => if v.truthy then Text.lower v.display else ""
  | none => ""

def hasMiddleware (s : Session ε τ) (name : String) : Bool :=
  s.middlewares.any fun p => p.1 == name

def register (s : Session ε τ) (name : String) (m : Middleware ε τ) : Session ε τ :=
  if s.hasMiddleware name then s else { s with middlewares := s.middlewares ++ [(name, m)] }

end Session

end LocatorHealing
