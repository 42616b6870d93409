import LocatorHealing.Proofs.Session.Driver
import LocatorHealing.Session.Lookup

set_option autoImplicit false
set_option relaxedAutoImplicit false

/-!
Lookups in a session with the intercepting middleware alone, and in the same session without it.
-/

namespace LocatorHealing

variable {ε τ : Type}

def World.bare (w : World ε τ) (key : String) : World ε τ :=
  { w with
    sessions := fun other =>
      if other = key then { w.sessions key with middlewares := [] } else w.sessions other }

@[simp] theorem World.sessions_bare (w : World ε τ) (key : String) :
    (w.bare key).sessions key = { w.sessions key with middlewares := [] } := by
  simp [World.bare]

section Settled

variable {look : Action ε τ Outcome} {w v : World ε τ}

theorem Outcome.run_settled_ok {outcome : Outcome} (h : look.run w = (.ok outcome, v)) :
    (Outcome.settled look).run w = (.ok outcome, v) := by
  simp [Outcome.settled, h]

theorem Outcome.run_settled_error {fault : Fault} (h : look.run w = (.error fault, v)) :
    (Outcome.settled look).run w = (.ok (.failed fault), v) := by
  simp [Outcome.settled, h]

end Settled

variable [Outside ε τ] [TimeScale τ]

namespace Protocol

variable {p : Protocol ε τ} {options : HealingOptions} {key : String}
  {look : Json → Json → Action ε τ Outcome} {strategy value : Json} {w v : World ε τ}

theorem run_intercept_ok {outcome : Outcome}
    (h : (p.run look key ⟨strategy, value, (w.sessions key).sessionId⟩ options).run w =
      (.ok outcome, v)) :
    (p.intercept options key look strategy value).run w = (.ok outcome, v) := by
  simp [intercept, Action.session, h]

theorem run_intercept_error {fault : Fault}
    (h : (p.run look key ⟨strategy, value, (w.sessions key).sessionId⟩ options).run w =
      (.error fault, v)) :
    ∃ log, (p.intercept options key look strategy value).run w =
      (Outcome.settled (look strategy value)).run { v with log } := by
  obtain ⟨log, logged⟩ := Action.run_log .debug ("Healing lookup failed for " ++
    strategy.display ++ "=" ++ value.display ++ ": " ++ fault.message) v
  refine ⟨log, ?_⟩
  have goes : (p.intercept options key look strategy value).run w =
      ((Action.log .debug ("Healing lookup failed for " ++ strategy.display ++ "=" ++
        value.display ++ ": " ++ fault.message)) >>= fun _ =>
          Outcome.settled (look strategy value)).run v := by
    simp [intercept, Action.session, h]
  rw [goes, Action.run_bind_ok logged]

end Protocol

namespace Session

theorem run_lookup_bare (key : String) (strategy value : Json) (w : World ε τ) :
    (lookup key strategy value).run (w.bare key) =
      (driverLookup key strategy value).run (w.bare key) := by
  simp [lookup, Action.session, lookupThrough]

theorem run_lookup_intercepted {key : String} {p : Protocol ε τ} {options : HealingOptions}
    {w : World ε τ}
    (installed : (w.sessions key).middlewares =
      [(interceptorName, .intercepting p options)]) (strategy value : Json) :
    (lookup key strategy value).run w =
      (p.intercept options key (driverLookup key) strategy value).run w := by
  simp [lookup, Action.session, installed, lookupThrough, Middleware.apply]

end Session

end LocatorHealing
