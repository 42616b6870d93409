import LocatorHealing.Action

set_option autoImplicit false
set_option relaxedAutoImplicit false

/-!
Authenticating a user once per launch. A failure is a result too, one that is not authenticated
and says why; a service that asks for an upgrade is never a success.
-/

namespace LocatorHealing.Authentication

def upgradeMessage : String := "Upgrade required"

def upgradeStatus : Int := 426

/-- A fault of authentication asks for an upgrade, by its class or by its status. -/
def asksForUpgrade (fault : Fault) : Bool :=
  fault.kind = .upgradeRequired || fault.status.same (.num (.int upgradeStatus))

/-- The result that a fault of authentication stands for. -/
def resultOf (fault : Fault) : Except Fault AuthResult :=
  let message := if asksForUpgrade fault then upgradeMessage else fault.message
  AuthResult.ofJson
    (.obj [("is_authenticated", .bool false), ("status", fault.status), ("message", .str message)])

def refuseOutdated (a : AuthResult) : AuthResult :=
  if a.status = some upgradeStatus ∧ a.message ≠ some upgradeMessage then
    { a with isAuthenticated := false, message := some upgradeMessage }
  else a

variable {ε τ : Type} [TimeScale τ]

def authenticate (service : Service ε τ) (settings : Settings τ) (user key : Option String) :
    Action ε τ AuthResult := do
  match ← Action.attempt
      (Action.ask service (.init key user settings.serviceUrl settings.clientVersion)) with
  | .ok result => return refuseOutdated result
  | .error fault =>
    Action.log .debug ("Healing authentication failed: " ++ fault.message)
    Action.ofExcept (resultOf fault)

end LocatorHealing.Authentication
