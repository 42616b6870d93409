import LocatorHealing.Proofs.Action.Frame

set_option autoImplicit false
set_option relaxedAutoImplicit false

/-!
Commands to a driver, in a session that is there and in one that is not: the first hands on what
the driver answers, and the second comes to an end without asking it.
-/

namespace LocatorHealing

def Outcome.ofDriver : Except Fault Element → Except Fault Outcome
  | .ok element => .ok (.found element)
  | .error fault => if fault.isDriver then .ok (.failed fault) else .error fault

theorem Outcome.driver_of_isFailure {answer : Except Fault Element} {outcome : Outcome}
    (comes : Outcome.ofDriver answer = .ok outcome) (failed : outcome.isFailure = true) :
    ∃ fault, answer = .error fault ∧ fault.isDriver = true := by
  cases answer with
  | ok element =>
    cases comes
    cases failed
  | error fault =>
    simp only [ofDriver] at comes
    split at comes
    case isTrue driver => exact ⟨fault, rfl, driver⟩
    case isFalse => cases comes

theorem Outcome.orRaise_of_ofDriver {answer : Except Fault Element} {outcome : Outcome}
    (comes : Outcome.ofDriver answer = .ok outcome) : outcome.orRaise = answer := by
  cases answer with
  | ok element =>
    cases comes
    rfl
  | error fault =>
    simp only [ofDriver] at comes
    split at comes
    · cases comes
      rfl
    · cases comes

theorem Outcome.answer_of_ofDriver {answer : Except Fault Element} {fault : Fault}
    (comes : Outcome.ofDriver answer = .error fault) : answer = .error fault := by
  cases answer with
  | ok element => cases comes
  | error other =>
    simp only [ofDriver] at comes
    split at comes
    · cases comes
    · exact congrArg _ (Except.error.inj comes)

namespace Session

variable {ε τ : Type} [Outside ε τ] [TimeScale τ] {key : String} {w : World ε τ}

theorem run_driverLookup_active (active : (w.sessions key).isActive = true)
    (strategy value : Json) :
    (driverLookup key strategy value).run w =
      (Outcome.ofDriver ((Action.perform (findCommand key strategy value)).run w).1,
        ((Action.perform (findCommand key strategy value)).run w).2) := by
  simp only [driverLookup, Action.session, Action.run_bind, Action.run_read, Action.andThen_ok,
    active, if_true, Action.run_attempt]
  cases ((Action.perform (findCommand key strategy value)).run w).1 with
  | ok element => rfl
  | error fault =>
    simp only [Outcome.ofDriver]
    split <;> rfl

theorem run_driverLookup_inactive (gone : (w.sessions key).isActive = false)
    (strategy value : Json) :
    (driverLookup key strategy value).run w = (.ok (.failed .sessionClosed), w) := by
  simp [driverLookup, Action.session, gone]

/-- The driver of a session raises only faults of the driver when it is asked for an element. -/
def FindsPlainly (ε : Type) {τ : Type} [Outside ε τ] [TimeScale τ] (key : String) : Prop :=
  ∀ strategy value (w v : World ε τ) fault,
    (Action.perform (findCommand key strategy value)).run w = (.error fault, v) →
      fault.isDriver = true

theorem driverLookup_answers (plainly : FindsPlainly ε key) (strategy value : Json)
    (w : World ε τ) :
    ∃ outcome v, (driverLookup key strategy value).run w = (.ok outcome, v) := by
  cases active : (w.sessions key).isActive with
  | false => exact ⟨_, _, run_driverLookup_inactive active strategy value⟩
  | true =>
    rw [run_driverLookup_active active]
    rcases found : (Action.perform (findCommand key strategy value)).run w with ⟨fault | element, v⟩
    · refine ⟨.failed fault, v, ?_⟩
      simp [Outcome.ofDriver, plainly _ _ _ _ _ found]
    · exact ⟨.found element, v, rfl⟩

theorem run_execute_active (active : (w.sessions key).isActive = true) (script : String)
    (arguments : List Json) :
    (execute key script arguments).run w =
      (Action.perform (scriptCommand key script arguments)).run w := by
  simp [execute, Action.session, active]

theorem run_execute_inactive (gone : (w.sessions key).isActive = false) (script : String)
    (arguments : List Json) :
    (execute key script arguments).run w =
      (.error (.namedSessionClosed ((w.sessions key).name.getD "")), w) := by
  simp [execute, Action.session, gone]

section Keeps

variable {R : World ε τ → World ε τ → Prop} (refl : ∀ w, R w w)
include refl

theorem keeps_driverLookup_of {strategy value : Json}
    (finds : ∀ w : World ε τ, (w.sessions key).isActive = true →
      R w ((Action.perform (findCommand key strategy value)).run w).2) :
    Action.Keeps R (driverLookup key strategy value) := by
  intro w
  cases active : (w.sessions key).isActive with
  | true =>
    rw [run_driverLookup_active active]
    exact finds w active
  | false =>
    rw [run_driverLookup_inactive active]
    exact refl w

theorem keeps_execute_of {script : String} {arguments : List Json}
    (runs : ∀ w : World ε τ, (w.sessions key).isActive = true →
      R w ((Action.perform (scriptCommand key script arguments)).run w).2) :
    Action.Keeps R (execute key script arguments) := by
  intro w
  cases active : (w.sessions key).isActive with
  | true =>
    rw [run_execute_active active]
    exact runs w active
  | false =>
    rw [run_execute_inactive active]
    exact refl w

end Keeps

end Session

end LocatorHealing
