import LocatorHealing.Event
import LocatorHealing.TimeScale.Basic

set_option autoImplicit false
set_option relaxedAutoImplicit false

/-!
The world outside of this library: the network, the browser drivers, the sink of events and the
disk. Its state is of any type, and any reaction is allowed. A call takes time, sessions may be
closed or lost while it is under way, and in the end it answers or raises a fault.
-/

namespace LocatorHealing

/-- What is sent where a request is redirected to. -/
structure FollowUp (τ : Type) where
  url : String
  timeout : τ
  headers : Members

def FollowUp.request {τ : Type} (f : FollowUp τ) : HttpRequest τ :=
  { method := .get, url := f.url, timeout := f.timeout, headers := f.headers, body := "" }

/-- What happens while a call is under way, where requests of a kind may be sent further. -/
inductive Happening (τ ρ : Type) where
  | elapse (duration : τ)
  /-- A session is closed. -/
  | quit (session : String)
  /-- A driver loses its session. -/
  | lose (session : String)
  /-- Something further is sent. -/
  | send (further : ρ)

def Happening.lift {τ ρ : Type} : Happening τ Empty → Happening τ ρ
  | .elapse duration => .elapse duration
  | .quit session => .quit session
  | .lose session => .lose session

/-- One call, from its start to its end. -/
structure Exchange (τ ρ α : Type) where
  happenings : List (Happening τ ρ)
  answer : Except Fault α

def Exchange.lift {τ ρ α : Type} (x : Exchange τ Empty α) : Exchange τ ρ α :=
  ⟨x.happenings.map .lift, x.answer⟩

/-- How a request ends that does not raise a fault of its own: with a reply, which may name a URL to
go to instead, or with a reason why there is none. -/
inductive HttpAnswer where
  | reply (status : Int) (octets : List UInt8) (redirect : Option String := none)
  | unreachable (reason : String)

/-- The session of a driver that was just started. -/
structure StartedDriver where
  sessionId : Json
  capabilities : Members

/-- How the world outside reacts, given its state. -/
class Outside (ε : Type) (τ : outParam Type) where
  /-- Whether an HTTP client looks at requests before they are sent. -/
  checksRequests : Bool
  /-- How deeply what is read may be nested. -/
  nesting : Json.Nesting
  send : HttpRequest τ → ε → Exchange τ Empty HttpAnswer × ε
  find : (session : String) → (strategy value : Json) → ε → Exchange τ Empty Element × ε
  runScript : (session script : String) → (arguments : List Json) → ε → Exchange τ Empty Json × ε
  installAddon : (session path : String) → (temporary : Json) → ε → Exchange τ Empty Json × ε
  quit : (session : String) → ε → Exchange τ Empty Unit × ε
  emit : (name : String) → (properties : Json) → ε → Exchange τ Empty Unit × ε
  start : Browser.Site → Browser.Options → ε → Exchange τ Empty StartedDriver × ε
  /-- Whether the disk lets a line be appended to a file; if not, the fault it raises. -/
  append : (path line : String) → ε → Option Fault × ε

/-- A call that is ready to be made: what the trace shows of it when it leaves, if it gets so
far, and how the world outside takes it. -/
structure Call (ε τ α : Type) where
  event : Option (Event τ)
  exchange : ε → Exchange τ (FollowUp τ) α × ε

namespace Call

variable {ε τ α β : Type}

def fail (f : Fault) : Call ε τ α :=
  ⟨none, fun s => (⟨[], .error f⟩, s)⟩

/-- The same call, with its answer or fault read in another way. -/
def mapAnswer (c : Call ε τ α) (g : Except Fault α → Except Fault β) : Call ε τ β :=
  ⟨c.event, fun s =>
    let (x, s) := c.exchange s
    (⟨x.happenings, g x.answer⟩, s)⟩

@[simp] theorem event_mapAnswer (c : Call ε τ α) (g : Except Fault α → Except Fault β) :
    (c.mapAnswer g).event = c.event := rfl

@[simp] theorem happenings_mapAnswer (c : Call ε τ α) (g : Except Fault α → Except Fault β)
    (s : ε) : ((c.mapAnswer g).exchange s).1.happenings = (c.exchange s).1.happenings := rfl

def showing (event : Event τ) (exchange : ε → Exchange τ Empty α × ε) : Call ε τ α :=
  ⟨some event, fun s =>
    let (x, s) := exchange s
    (x.lift, s)⟩

end Call

end LocatorHealing
