import LocatorHealing.Audit
import LocatorHealing.Healing.Trail
import LocatorHealing.Session.Driver
import LocatorHealing.Wait

set_option autoImplicit false
set_option relaxedAutoImplicit false

/-!
Healing one lookup. A lookup that works is logged with the service. For one that fails, the service
is asked for a script to run in the session, polled for a locator, and that locator is tried. The
first failure is the outcome wherever this leads to no element. A session that goes away ends the
run with the first outcome, and any other fault makes it look once more as if there were no healing.
-/

namespace LocatorHealing

/-- Where the service is to route requests to, escaped for a script. -/
def Settings.regionHint {τ : Type} (s : Settings τ) : String :=
  ScriptLiteral.escape (Json.write .spaced
    (.obj [("region", .str s.region),
      ("serviceUrls", .obj [(s.region, .obj [("endpoint", .str s.serviceHost)])])]))

/-- A lookup that is asked of a session. -/
structure LocatorAttempt where
  strategy : Json
  value : Json
  sessionId : Json

namespace Healing

variable {ε τ : Type}

/-- How far a run has come. -/
structure Progress where
  trail : List State
  /-- The outcome of the first lookup. -/
  first : Option Outcome := none
  healed : Option HealedLocator := none

def Progress.enter (p : Progress) (state : State) : Progress :=
  { p with trail := p.trail ++ [state] }

/-- How a run ends: how far it has come, and the outcome for the caller. -/
structure Ending where
  progress : Progress
  outcome : Outcome

/-- What stays the same throughout a run. -/
structure Run (ε τ : Type) where
  healing : Healing ε τ
  options : HealingOptions
  session : String
  attempt : LocatorAttempt
  report : LookupReport
  /-- Look up an element, without healing. -/
  look : (strategy value : Json) → Action ε τ Outcome

/-- The service is told of a lookup with both halves of its locator escaped. -/
def report (h : Healing ε τ) (attempt : LocatorAttempt) : Except Fault LookupReport := do
  let strategy ← Locator.escaped attempt.strategy
  let value ← Locator.escaped attempt.value
  return { strategy, value, groupId := h.auth.groupId, sessionId := attempt.sessionId
           region := h.settings.regionHint }

namespace Run

def record (r : Run ε τ) (p : Progress) (timestamp : String) (outcome : Outcome) : Audit.Record :=
  { timestamp, sessionId := r.report.sessionId, strategy := r.report.strategy
    value := r.report.value, healed := p.healed, states := p.trail.map State.name
    success := !outcome.isFailure }

def failureReport (r : Run ε τ) : FailureReport :=
  { r.report with
    userId := r.healing.auth.userId, groupAi := r.healing.auth.isGroupAiEnabled == some true }

def ensureActive (r : Run ε τ) : Action ε τ Unit := do
  let s ← Action.session r.session
  if s.isActive then return () else Action.raise (.closedWhileHealing s.sessionId)

section

variable [Outside ε τ]

/-- Write the audit record of a run that asked for healing. A file that cannot be written is
logged; any other fault is raised. -/
def audit (r : Run ε τ) (p : Progress) (outcome : Outcome) : Action ε τ Unit := do
  match r.healing.auditFile with
  | none => return ()
  | some file =>
    if p.trail.contains .attemptHeal then
      let timestamp ← Action.read World.timestamp
      match ← Action.attempt (Audit.write file (r.record p timestamp outcome)) with
      | .ok () => return ()
      | .error fault =>
        if fault.isSystem then
          Action.log .debug ("Could not write healing audit entry: " ++ fault.message)
        else Action.raise fault
    else return ()

def finish (r : Run ε τ) (p : Progress) (outcome : Outcome) : Action ε τ Ending := do
  Action.log .debug
    ("Lookup " ++ r.report.strategy ++ "=" ++ r.report.value ++ " on session " ++
      r.report.sessionId.display ++ " finished: " ++ " -> ".intercalate (p.trail.map State.name))
  r.audit p outcome
  return ⟨p, outcome⟩

def recover (r : Run ε τ) (p : Progress) (fault : Fault) : Action ε τ Ending := do
  if fault.isSessionGone then
    Action.log .debug
      ("Session " ++ r.attempt.sessionId.display ++ " went away while healing " ++
        r.attempt.value.display ++ ": " ++ fault.message)
    r.finish (p.enter .returnFirstFailure) (p.first.getD (.failed fault))
  else
    if r.options.selfHeal then
      Action.log .warning
        ("Something went wrong while healing. Disabling healing for this command: " ++
          fault.message)
    else
      Action.log .debug
        ("Error in findElement: " ++ fault.message ++ " using: " ++ r.attempt.strategy.display ++
          " value: " ++ r.attempt.value.display)
    let outcome ← r.look r.attempt.strategy r.attempt.value
    r.finish (p.enter .returnFirstFailure) outcome

/-- Go on with what an action gives, or recover from its fault. -/
def guarded {α : Type} (r : Run ε τ) (p : Progress) (x : Action ε τ α)
    (next : α → Action ε τ Ending) : Action ε τ Ending := do
  match ← Action.attempt x with
  | .ok a => next a
  | .error fault => r.recover p fault

def close (r : Run ε τ) (p : Progress) (state : State) (outcome : Outcome) : Action ε τ Ending :=
  r.guarded (p.enter state) (r.finish (p.enter state) outcome) pure

variable [TimeScale τ]

/-- Tell the service of a lookup that worked, and run the script that it answers with. -/
def logUsage (r : Run ε τ) : Action ε τ Unit := do
  match (← Action.ask r.healing.service (.log r.report)).filter (· ≠ "") with
  | some script => let _ ← Session.execute r.session script []
  | none => return ()

/-- Run the service's script in the session, if the session is still there. -/
def runScript (r : Run ε τ) (script : String) : Action ε τ Unit := do
  r.ensureActive
  let _ ← Session.execute r.session script []

def pollOnce (r : Run ε τ) (deadline : τ) : Action ε τ (Option HealedLocator) := do
  r.ensureActive
  let remaining ← Action.timeUntil deadline
  if TimeScale.isOver remaining then return none
  else
    Action.ask r.healing.service
      (.poll r.healing.settings.serviceUrl r.report.sessionId r.healing.auth.sessionToken
        (some remaining))

/-- Poll the service until it has a locator, within the bounds of the settings. -/
def poll (r : Run ε τ) : Action ε τ (Option HealedLocator) := do
  let settings := r.healing.settings
  let deadline ← Action.sum (← Action.read World.clock) settings.pollTimeout
  let ending ← Wait.wait (r.pollOnce deadline) Option.isSome settings.pollTimeout
    settings.pollInterval (.atMost settings.pollMaxAttempts)
  return ending.answer?.join

def lookAgain (r : Run ε τ) (healed : HealedLocator) : Action ε τ Outcome := do
  r.ensureActive
  r.look (.str healed.strategy) (.str healed.value)

def retry (r : Run ε τ) (p : Progress) (first : Outcome) (healed : HealedLocator) :
    Action ε τ Ending :=
  let p := p.enter .retryWithHealedLocator
  r.guarded p (r.lookAgain healed) fun second =>
    if second.isFailure then do
      Action.log .info
        ("Healed locator " ++ healed.selector ++ ": " ++ healed.value ++ " did not match either")
      r.close p .returnFirstFailure first
    else do
      Action.log .info
        ("Healing worked, element found: " ++ healed.selector ++ ": " ++ healed.value)
      r.close p .returnHealedResult second

/-- Run a script in the session, and poll for what it leads to. -/
def execute (r : Run ε τ) (p : Progress) (first : Outcome) (script : String) :
    Action ε τ Ending :=
  let p := p.enter .executeScript
  r.guarded p (r.runScript script) fun _ =>
    let p := p.enter .pollResult
    r.guarded p r.poll fun
      | none => r.close p .returnFirstFailure first
      | some healed => r.retry { p with healed := some healed } first healed

def heal (r : Run ε τ) (p : Progress) (first : Outcome) : Action ε τ Ending := do
  let p := p.enter .attemptHeal
  Action.log .info "findElement failed, trying to heal"
  r.guarded p (Action.ask r.healing.service (.heal r.failureReport)) fun answer =>
    match Option.filter (· ≠ "") answer with
    | none => r.close p .returnFirstFailure first
    | some script => r.execute p first script

def mayHeal (r : Run ε τ) : Bool :=
  r.options.selfHeal && r.healing.auth.isHealingEnabled == some true

def start (r : Run ε τ) : Action ε τ Ending :=
  let p : Progress := ⟨[.firstLookup], none, none⟩
  r.guarded p (r.look r.attempt.strategy r.attempt.value) fun first =>
    let p := { p with first := some first }
    if !first.isFailure then
      r.guarded (p.enter .logAndReturn) r.logUsage fun _ => r.close p .logAndReturn first
    else if r.mayHeal then r.heal p first
    else r.close p .returnFirstFailure first

end

end Run

/-- The run for a lookup; there is none for a locator that cannot be reported. -/
def runOf (h : Healing ε τ) (look : Json → Json → Action ε τ Outcome) (session : String)
    (attempt : LocatorAttempt) (options : HealingOptions) : Except Fault (Run ε τ) := do
  let report ← h.report attempt
  return { healing := h, options, session, attempt, report, look }

def run [Outside ε τ] [TimeScale τ] (h : Healing ε τ) (look : Json → Json → Action ε τ Outcome)
    (session : String) (attempt : LocatorAttempt) (options : HealingOptions) :
    Action ε τ Outcome := do
  let r ← Action.ofExcept (h.runOf look session attempt options)
  return (← r.start).outcome

end Healing

end LocatorHealing
