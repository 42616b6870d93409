import LocatorHealing.Json.Access
import LocatorHealing.Locator

set_option autoImplicit false
set_option relaxedAutoImplicit false

/-!
Reading the service's replies to the requests to log, to heal and to poll. A reply that is empty
in any way says nothing; any other has to be an object.
-/

namespace LocatorHealing.Service

def replyMembers (reply : Json) : Except Fault Members :=
  if reply.truthy then reply.membersFor "get" else .ok []

def scriptOf (reply : Json) : Except Fault (Option String) := do
  let m ← replyMembers reply
  match m.get? "script" with
  | some (.str script) => return if Text.isAllBlank script then none else some script
  | _ => return none

/-- The locator in a reply, unless one of its halves is missing or empty. -/
def healedLocatorOf (reply : Json) : Except Fault (Option HealedLocator) := do
  let m ← replyMembers reply
  match m.get? "selector", m.get? "value" with
  | some (.str selector), some (.str value) =>
    if selector = "" ∨ value = "" then return none
    else return some ⟨selector, value, ← Locator.strategyOf selector⟩
  | _, _ => return none

end LocatorHealing.Service
