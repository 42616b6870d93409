import LocatorHealing.Proofs.Healing.Frame
import LocatorHealing.Proofs.Session.Driver

set_option autoImplicit false
set_option relaxedAutoImplicit false

/-!
Surroundings that are steady for a session. Nothing that the service, the scripts, the disk and the
session's own driver do closes or loses the session, and the driver's answer to a locator stays the
same. A run leaves such surroundings steady, whatever else is answered and raised.
-/

namespace LocatorHealing

variable {ε τ : Type}

/-- A session is not the one to which something happens. -/
def Happening.Spares (key : String) {ρ : Type} : Happening τ ρ → Prop
  | .elapse _ => True
  | .quit other => other ≠ key
  | .lose other => other ≠ key
  | .send _ => True

/-- A call spares a session if it is made in a condition of the world outside, which it keeps. -/
def Call.Spares {α : Type} (P : ε → Prop) (key : String) (call : Call ε τ α) : Prop :=
  ∀ s, P s → P (call.exchange s).2 ∧ ∀ h ∈ (call.exchange s).1.happenings, h.Spares key

/-- In a condition `P` of the world outside the session stays active, and its driver answers every
locator as `page` does. -/
structure Steady [Outside ε τ] [TimeScale τ] (service : Service ε τ) (key : String)
    (page : Json → Json → Except Fault Element) (P : ε → Prop) : Prop where
  answers : ∀ strategy value (w : World ε τ), P w.outside →
    ((Action.perform (Session.findCommand key strategy value)).run w).1 = page strategy value
  finds : ∀ strategy value, (Session.findCommand key strategy value : Call ε τ _).Spares P key
  scripts : ∀ script, (Session.scriptCommand key script [] : Call ε τ _).Spares P key
  inquiries : ∀ inquiry, (service.call inquiry).Spares P key
  disk : ∀ path line (s : ε), P s → P (Outside.append path line s).2

/-- The condition holds, and the session is active. -/
def World.Calm (P : ε → Prop) (key : String) (w : World ε τ) : Prop :=
  P w.outside ∧ (w.sessions key).isActive = true

/-- Worlds before and after something that leaves the surroundings steady. -/
def World.StaysCalm (P : ε → Prop) (key : String) (w v : World ε τ) : Prop :=
  w.Calm P key → v.Calm P key

variable {P : ε → Prop} {key : String}

open LocatorHealing.Action (Keeps)
open World (StaysCalm)

theorem frame_staysCalm : Frame (StaysCalm (τ := τ) P key) where
  refl _ calm := calm
  trans first second calm := second (first calm)
  log _ _ _ calm := calm
  clock _ _ calm := calm

namespace StaysCalm

theorem note (event : Event τ) : Keeps (StaysCalm P key) (Action.note event : Action ε τ Unit) :=
  fun _ calm => calm

theorem modifySession {other : String} (spared : other ≠ key)
    (f : Session ε τ → Session ε τ) :
    Keeps (StaysCalm P key) (Action.modifySession other f : Action ε τ Unit) := by
  intro w calm
  refine ⟨calm.1, ?_⟩
  simp only [Action.modifySession, Action.run_modify, if_neg spared.symm]
  exact calm.2

variable [TimeScale τ]

theorem happen {h : Happening τ (FollowUp τ)} (spares : h.Spares key) :
    Keeps (StaysCalm P key) (Action.happen h : Action ε τ Unit) := by
  cases h with
  | elapse duration => exact frame_staysCalm.keeps_elapse duration
  | quit other =>
    exact frame_staysCalm.keeps_bind (modifySession spares _) fun _ => note _
  | lose other => exact modifySession spares fun s => { s with sessionId := .null }
  | send further => exact note _

theorem perform {α : Type} {call : Call ε τ α} (spares : call.Spares P key) :
    Keeps (StaysCalm P key) (Action.perform call) := by
  refine frame_staysCalm.keeps_perform (fun event _ => note event) ?_
  intro w calm
  obtain ⟨condition, spared⟩ := spares w.outside calm.1
  exact frame_staysCalm.keeps_each (fun h member => happen (spared h member)) _
    ⟨condition, calm.2⟩

theorem ask {service : Service ε τ} {inquiry : Inquiry τ}
    (spares : (service.call inquiry).Spares P key) :
    Keeps (StaysCalm P key) (Action.ask service inquiry) :=
  frame_staysCalm.keeps_bind (note _) fun _ => perform spares

end StaysCalm

namespace Steady

variable [Outside ε τ] [TimeScale τ] {service : Service ε τ}
  {page : Json → Json → Except Fault Element} (steady : Steady service key page P)
include steady

theorem run_driverLookup {w : World ε τ} (calm : w.Calm P key) (strategy value : Json) :
    ((Session.driverLookup key strategy value).run w).1 =
      Outcome.ofDriver (page strategy value) := by
  rw [Session.run_driverLookup_active calm.2, steady.answers strategy value w calm.1]

theorem keeps_driverLookup (strategy value : Json) :
    Keeps (StaysCalm P key) (Session.driverLookup key strategy value : Action ε τ Outcome) := by
  intro w calm
  rw [Session.run_driverLookup_active calm.2]
  exact StaysCalm.perform (steady.finds strategy value) w calm

theorem keeps_execute (script : String) :
    Keeps (StaysCalm P key) (Session.execute key script [] : Action ε τ Json) := by
  intro w calm
  rw [Session.run_execute_active calm.2]
  exact StaysCalm.perform (steady.scripts script) w calm

theorem auditKeeps : Healing.Run.AuditKeeps (ε := ε) (τ := τ) (StaysCalm P key) :=
  Healing.Run.auditKeeps_of frame_staysCalm
    (fun path line _ calm => ⟨steady.disk path line _ calm.1, calm.2⟩) fun _ _ calm => calm

end Steady

end LocatorHealing
