import LocatorHealing.AuthResult
import LocatorHealing.Locator

set_option autoImplicit false
set_option relaxedAutoImplicit false

/-!
What the healing service is asked, and the type of what it answers.
-/

namespace LocatorHealing

/-- A lookup as the service sees it: both halves of the locator escaped for a script, the session,
and the hint where to route the request. -/
structure LookupReport where
  strategy : String
  value : String
  groupId : Option String
  sessionId : Json
  region : String

/-- A failed lookup, with the user on whose behalf it is to be healed. -/
structure FailureReport extends LookupReport where
  userId : Option String
  groupAi : Bool

/-- The requests of the healing service. -/
inductive Inquiry (τ : Type) where
  /-- Authenticate a user by an access key. -/
  | init (key user : Option String) (endpoint version : String)
  /-- Attribute a session to a token. -/
  | token (sessionId : Json) (token : Option String) (endpoint : String)
  /-- Log a lookup that worked. -/
  | log (report : LookupReport)
  /-- Heal a lookup that failed. -/
  | heal (report : FailureReport)
  /-- Ask for a healed locator; a timeout caps this request alone. -/
  | poll (endpoint : String) (sessionId : Json) (token : Option String) (timeout : Option τ)

namespace Inquiry

variable {τ : Type}

/-- What an inquiry is answered by: a result of authentication, nothing, a script to run, or a
locator to try. -/
abbrev Answer : Inquiry τ → Type
  | .init _ _ _ _ => AuthResult
  | .token _ _ _ => Unit
  | .log _ => Option String
  | .heal _ => Option String
  | .poll _ _ _ _ => Option HealedLocator

def operation : Inquiry τ → String
  | .init _ _ _ _ => "init"
  | .token _ _ _ => "token"
  | .log _ => "log"
  | .heal _ => "heal"
  | .poll _ _ _ _ => "poll"

end Inquiry

end LocatorHealing
