import LocatorHealing.Service.Http

set_option autoImplicit false
set_option relaxedAutoImplicit false

/-!
The requests that inquiries are made with over HTTP. Nothing else leaves first for an inquiry, and
it leaves unless something bars it: a URL that cannot be requested, or a client that does not send
it.
-/

namespace LocatorHealing

variable {ε τ : Type} [TimeScale τ]

def Inquiry.request (q : Inquiry τ) (client : Settings τ) : HttpRequest τ :=
  Http.request (q.url client) q.payload (q.headers client) (q.timeout client)

@[simp] theorem Inquiry.body_request (q : Inquiry τ) (client : Settings τ) :
    (q.request client).body = Json.write .spaced q.payload := rfl

variable [Outside ε τ]

variable (ε) in
def Inquiry.barrier? (q : Inquiry τ) (client : Settings τ) : Option Fault :=
  Http.barrier? ε (q.url client) (q.request client)

theorem Http.event_post_eq (url : String) (payload : Json) (headers : Members) (timeout : τ) :
    (post url payload headers timeout : Call ε τ Json).event =
      let r := request url payload headers timeout
      if (barrier? ε url r).isSome then none else some (.http r) := by
  unfold post
  dsimp only
  cases barrier? ε url (request url payload headers timeout) with
  | some fault => rfl
  | none => rfl

namespace Service

variable {client : Settings τ} {q : Inquiry τ}

theorem call_http (leaves : q.barrier? ε client = none) :
    (Service.http client : Service ε τ).call q =
      ((Http.sending (q.request client)).mapAnswer
        (Http.readAnswer ε (TimeScale.text (q.timeout client)))).mapAnswer q.readAnswer := by
  change (Http.post (q.url client) q.payload (q.headers client) (q.timeout client)).mapAnswer _ = _
  unfold Http.post
  dsimp only
  rw [Inquiry.barrier?, Inquiry.request] at leaves
  rw [leaves]
  rfl

theorem call_http_barred {fault : Fault} (barred : q.barrier? ε client = some fault) :
    (Service.http client : Service ε τ).call q = (Call.fail fault).mapAnswer q.readAnswer := by
  change (Http.post (q.url client) q.payload (q.headers client) (q.timeout client)).mapAnswer _ = _
  unfold Http.post
  dsimp only
  rw [Inquiry.barrier?, Inquiry.request] at barred
  rw [barred]

theorem event_http {event : Event τ}
    (shows : ((Service.http client : Service ε τ).call q).event = some event) :
    event = .http (q.request client) := by
  simp only [Service.http, Call.event_mapAnswer] at shows
  rw [Http.event_post shows, Inquiry.request]

end Service

end LocatorHealing
