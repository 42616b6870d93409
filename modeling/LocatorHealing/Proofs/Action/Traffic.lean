import LocatorHealing.Proofs.Action.Frame

set_option autoImplicit false
set_option relaxedAutoImplicit false

/-!
What calls leave as it was. A call appends to the trace, lets time pass and the world outside react,
and sessions may be closed or lost meanwhile. A frame that allows all this is kept by every call,
whatever it is answered.
-/

namespace LocatorHealing

open LocatorHealing.Action (Keeps)

variable {ε τ α : Type}

/-- A frame that no call breaks. -/
structure Sturdy (R : World ε τ → World ε τ → Prop) (warns : Prop := True) : Prop
    extends Frame R warns where
  trace : ∀ w trace, R w { w with trace }
  outside : ∀ w outside, R w { w with outside }
  closes : ∀ key, Keeps R (Action.modifySession key fun s => { s with closed := true })
  loses : ∀ key, Keeps R (Action.modifySession key fun s => { s with sessionId := .null })

namespace Sturdy

variable {R : World ε τ → World ε τ → Prop} {warns : Prop} (hR : Sturdy R warns)
include hR

theorem keeps_note (event : Event τ) : Keeps R (Action.note event : Action ε τ Unit) :=
  fun w => hR.trace w _

variable [TimeScale τ]

theorem keeps_happen (h : Happening τ (FollowUp τ)) :
    Keeps R (Action.happen h : Action ε τ Unit) := by
  cases h with
  | elapse duration => exact hR.keeps_elapse duration
  | quit key => exact hR.keeps_bind (hR.closes key) fun _ => hR.keeps_note _
  | lose key => exact hR.loses key
  | send further => exact hR.keeps_note _

theorem keeps_call (call : Call ε τ α) : Keeps R (Action.perform call) := by
  refine hR.keeps_perform (fun event _ => hR.keeps_note event) fun w => ?_
  exact hR.trans (hR.outside w _) (hR.keeps_each (fun h _ => hR.keeps_happen h) _)

theorem keeps_ask (service : Service ε τ) (inquiry : Inquiry τ) :
    Keeps R (Action.ask service inquiry) :=
  hR.keeps_bind (hR.keeps_note _) fun _ => hR.keeps_call _

end Sturdy

end LocatorHealing
