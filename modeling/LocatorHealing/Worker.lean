import LocatorHealing.Binding
import LocatorHealing.Capability.Augment
import LocatorHealing.Session.Lookup

set_option autoImplicit false
set_option relaxedAutoImplicit false

/-!
The worker: sessions are attributed to the token of the launch, and their lookups are routed
through healing. A session whose set-up fails goes on without healing, and so do not its siblings.
-/

namespace LocatorHealing

structure Worker (ε τ : Type) where
  service : Service ε τ
  settings : Settings τ
  /-- The result of the launcher's authentication, if it handed one over. -/
  auth : Option AuthResult
  auditFile : Option FilePath

namespace Worker

variable {ε τ : Type}

/-- Set up a worker, with its audit directory; from then on its log level is in force. -/
def create (service : Service ε τ) (settings : Settings τ) (auth : Option AuthResult) :
    Action ε τ (Worker ε τ) := do
  let auditFile ←
    match settings.auditDirectory.filter (· ≠ "") with
    | some directory => (Audit.openIn directory).bind fun file => pure (some file)
    | none => pure none
  Action.modify fun w => { w with level := settings.logLevel }
  return { service, settings, auth, auditFile }

/-- The result that the launcher handed over; one that cannot be read counts as none. -/
def authOfEnvironment : Action ε τ (Option AuthResult) := do
  let raw := ((← Action.read World.environment).get? AuthResult.variableName).getD ""
  match AuthResult.ofVariable raw with
  | .ok auth? => return auth?
  | .error fault =>
    Action.log .debug
      ("Ignoring unreadable " ++ AuthResult.variableName ++ " value: " ++ fault.message)
    return none

def ofEnvironment (service : Service ε τ) (settings : Settings τ) : Action ε τ (Worker ε τ) := do
  create service settings (← authOfEnvironment)

def healing (k : Worker ε τ) (auth : AuthResult) : Healing ε τ :=
  { service := k.service, auth, settings := k.settings, auditFile := k.auditFile }

variable [Outside ε τ] [TimeScale τ]

/-- Attribute a session to the token, prepare its browser, and route its lookups. -/
def prepare (k : Worker ε τ) (auth : AuthResult) (options : HealingOptions) (session : String) :
    Action ε τ Bool := do
  let s ← Action.session session
  Session.bindToken k.service k.settings s.sessionId auth.sessionToken
  let s ← Action.session session
  if s.needsCompanion then
    let _ ← Session.installCompanion k.settings session
  Session.intercept session (.healing (k.healing auth)) options

/-- Set up one session, if its browser is supported and the user may have healing; whether its
lookups were routed. -/
def setupSession (k : Worker ε τ) (options : HealingOptions) (session : String) :
    Action ε τ Bool := do
  let s ← Action.session session
  if ← Action.ofExcept (k.settings.supportsBrowser (.str s.browserName)) then
    match k.auth with
    | none =>
      if options.selfHeal then Action.log .debug "Healing auth result is empty"
      return false
    | some auth =>
      if Capability.isAuthorized auth options then k.prepare auth options session
      else return false
  else return false

/-- What is to be set up: one session, or sessions under names. -/
inductive Target where
  | one (session : String)
  | named (sessions : List (String × String))

/-- The sessions to set up: those whose names occur in the capabilities, or all if there are no
capabilities. -/
def selected (capabilities : Json) :
    List (String × String) → Except Fault (List (String × String))
  | [] => .ok []
  | (name, session) :: rest => do
    let isWanted ← if capabilities.truthy then capabilities.holds name else .ok true
    let others ← selected capabilities rest
    return if isWanted then (name, session) :: others else others

/-- Set up named sessions, one after the other, each in the way given. A set-up that fails is
reported, and its siblings go on. -/
def setupEach {α : Type} (options : HealingOptions) (setupOne : String → Action ε τ α)
    (sessions : List (String × String)) : Action ε τ Unit :=
  Action.each sessions fun p => do
    match ← Action.attempt (setupOne p.2) with
    | .ok _ => return ()
    | .error fault =>
      Action.report options
        ("Error while setting up self-healing for " ++ p.1 ++ ": " ++ fault.message)

def setupAll (k : Worker ε τ) (options : HealingOptions) (sessions : List (String × String)) :
    Action ε τ Unit :=
  setupEach options (k.setupSession options) sessions

def setupTarget (k : Worker ε τ) (options : HealingOptions) (capabilities : Json)
    (target : Target) : Action ε τ Unit := do
  match target with
  | .one session => let _ ← k.setupSession options session
  | .named sessions => k.setupAll options (← Action.ofExcept (selected capabilities sessions))

def selfHeal (k : Worker ε τ) (options : HealingOptions) (capabilities : Json) (target : Target) :
    Action ε τ Unit := do
  match ← Action.attempt (k.setupTarget options capabilities target) with
  | .ok () => return ()
  | .error fault =>
    if options.selfHeal then
      Action.log .warning
        ("Error while setting up self-healing: " ++ fault.message ++
          ". Disabling healing for this session.")
    else Action.log .debug ("Error while setting up self-healing: " ++ fault.message)

end Worker

end LocatorHealing
