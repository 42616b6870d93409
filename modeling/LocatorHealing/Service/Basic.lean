import LocatorHealing.Outside

set_option autoImplicit false
set_option relaxedAutoImplicit false

/-!
A healing service, whatever carries the requests to it: to every inquiry it gives the call that
asks it.
-/

namespace LocatorHealing

structure Service (ε τ : Type) where
  call : (inquiry : Inquiry τ) → Call ε τ inquiry.Answer
  /-- The trace shows nothing of a call but the request that leaves. -/
  shows_request : ∀ inquiry event, (call inquiry).event = some event →
    ∃ request, event = .http request

end LocatorHealing
