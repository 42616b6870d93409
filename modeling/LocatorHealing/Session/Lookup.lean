import LocatorHealing.Healing.Run

set_option autoImplicit false
set_option relaxedAutoImplicit false

/-!
Lookups through the middlewares of a session: the one registered last is entered first, and the
driver's own lookup is at the end. The intercepting middleware hands a lookup to its protocol; if
that fails, the lookup is made without it, and whatever comes of it is an outcome.
-/

namespace LocatorHealing

variable {ε τ : Type} [Outside ε τ] [TimeScale τ]

def Protocol.run (p : Protocol ε τ) (look : Json → Json → Action ε τ Outcome) (session : String)
    (attempt : LocatorAttempt) (options : HealingOptions) : Action ε τ Outcome :=
  match p with
  | .healing h => h.run look session attempt options
  | .failing fault => Action.raise fault

def Outcome.settled (look : Action ε τ Outcome) : Action ε τ Outcome := do
  match ← Action.attempt look with
  | .ok outcome => return outcome
  | .error fault => return .failed fault

def Protocol.intercept (p : Protocol ε τ) (options : HealingOptions) (session : String)
    (look : Json → Json → Action ε τ Outcome) (strategy value : Json) : Action ε τ Outcome := do
  let s ← Action.session session
  match ← Action.attempt (p.run look session ⟨strategy, value, s.sessionId⟩ options) with
  | .ok outcome => return outcome
  | .error fault =>
    Action.log .debug
      ("Healing lookup failed for " ++ strategy.display ++ "=" ++ value.display ++ ": " ++
        fault.message)
    Outcome.settled (look strategy value)

def Behaviour.extended (lead : String) (value : Json) : Except Fault Json :=
  match value with
  | .str s => .ok (.str (lead ++ s))
  | v => .error (.notText v.kindName)

def Behaviour.apply (b : Behaviour) (look : Json → Json → Action ε τ Outcome)
    (strategy value : Json) : Action ε τ Outcome := do
  match b with
  | .raise fault => Action.raise fault
  | .fail fault => return .failed fault
  | .redirect other lead =>
    let value ← Action.ofExcept (Behaviour.extended lead value)
    look ((other.filter Json.truthy).getD strategy) value
  | .element => return .found ⟨strategy, value⟩
  | .twice =>
    let _ ← look strategy value
    look strategy value
  | .pass => look strategy value

/-- Look up through a middleware, which stands in front of another way to look. -/
def Middleware.apply (m : Middleware ε τ) (name session : String)
    (look : Json → Json → Action ε τ Outcome) (strategy value : Json) : Action ε τ Outcome :=
  match m with
  | .intercepting p options => p.intercept options session look strategy value
  | .custom b => do
    Action.note (.middleware name strategy value)
    b.apply look strategy value

namespace Session

/-- Look up through middlewares, of which the first is entered first. -/
def lookupThrough (session : String) :
    List (String × Middleware ε τ) → (strategy value : Json) → Action ε τ Outcome
  | [] => driverLookup session
  | (name, m) :: rest => m.apply name session (lookupThrough session rest)

def lookup (session : String) (strategy value : Json) : Action ε τ Outcome := do
  let s ← Action.session session
  lookupThrough session s.middlewares.reverse strategy value

def findElement (session : String) (strategy value : Json) : Action ε τ Element := do
  Action.ofExcept (← lookup session strategy value).orRaise

def interceptorName : String := "selfheal.find_element"

/-- Register a middleware with a session; whether its name was free. -/
def addMiddleware (session name : String) (m : Middleware ε τ) : Action ε τ Bool := do
  let s ← Action.session session
  Action.modifySession session fun s => s.register name m
  return !s.hasMiddleware name

/-- Route the lookups of a session through a protocol, unless they are routed already. -/
def intercept (session : String) (p : Protocol ε τ) (options : HealingOptions) :
    Action ε τ Bool := do
  let installed ← addMiddleware session interceptorName (.intercepting p options)
  if !installed then
    let s ← Action.session session
    Action.log .debug
      ("Healing lookup already installed on session " ++ s.sessionId.display)
  return installed

end Session

end LocatorHealing
