import LocatorHealing.Browser.Options
import LocatorHealing.Inquiry

set_option autoImplicit false
set_option relaxedAutoImplicit false

/-!
What a run does that can be seen from outside, in the order in which it happens.
-/

namespace LocatorHealing

inductive HttpMethod where
  | get
  | post
  deriving DecidableEq, Repr

/-- A request as it goes out; header names are capitalised. -/
structure HttpRequest (τ : Type) where
  method : HttpMethod := .post
  url : String
  timeout : τ
  headers : Members
  body : String

/-- The commands of a browser driver. -/
inductive Command where
  | find (strategy value : Json)
  | script (script : String) (arguments : List Json)
  | installAddon (path : String) (temporary : Json)
  | quit

inductive Event (τ : Type) where
  /-- Something is asked of the healing service. -/
  | asked (inquiry : Inquiry τ)
  /-- A request leaves. -/
  | http (request : HttpRequest τ)
  /-- A driver is given a command. -/
  | driver (session : String) (command : Command)
  | slept (duration : τ)
  /-- An instrumentation event is handed to its sink. -/
  | emitted (name : String) (properties : Json)
  /-- A user's own middleware is entered. -/
  | middleware (name : String) (strategy value : Json)
  /-- A browser is started. -/
  | started (site : Browser.Site) (options : Browser.Options)
  | pageLoadTimeout (seconds : Json)
  | implicitWait (seconds : Json)

/-- An event, with the reading of the clock when it happened. -/
structure TraceEntry (τ : Type) where
  clock : τ
  event : Event τ

end LocatorHealing
