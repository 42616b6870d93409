import LocatorHealing.Fault
import LocatorHealing.Text.Blank
import LocatorHealing.Text.Case
import LocatorHealing.Json.Access
import LocatorHealing.Text.ScriptLiteral

set_option autoImplicit false
set_option relaxedAutoImplicit false

/-!
Locators: a strategy of finding elements, and the value it looks for.
-/

namespace LocatorHealing

/-- A locator that the service proposes: the selector as the service wrote it, the value, and the
strategy of the driver that the selector stands for. -/
structure HealedLocator where
  selector : String
  value : String
  strategy : String
  deriving DecidableEq, Repr

namespace Locator

/-- The strategies of the driver, under the names they may go by. -/
def strategies : List (String × String) :=
  [("css", "css selector"), ("css selector", "css selector"), ("xpath", "xpath"), ("id", "id"),
    ("name", "name"), ("link text", "link text"), ("partial link text", "partial link text"),
    ("tag name", "tag name"), ("class name", "class name")]

/-- The strategy with a name, in letters of any case and with any blanks around it. -/
def strategyOf (selector : String) : Except Fault String :=
  match strategies.lookup (Text.lower (Text.trim selector)) with
  | some strategy => .ok strategy
  | none => .error (.unsupportedStrategy selector)

/-- Half of a locator as a part of a script literal; a half that is no text is a fault. -/
def escaped (half : Json) : Except Fault String :=
  (half.textFor "replace").map ScriptLiteral.escape

end Locator

/-- An element of a page, known by the locator that found it. -/
structure Element where
  strategy : Json
  value : Json

/-- What a lookup comes to. -/
inductive Outcome where
  | found (element : Element)
  | failed (fault : Fault)

namespace Outcome

def isFailure : Outcome → Bool
  | .found _ => false
  | .failed _ => true

def orRaise : Outcome → Except Fault Element
  | .found element => .ok element
  | .failed fault => .error fault

end Outcome

end LocatorHealing
