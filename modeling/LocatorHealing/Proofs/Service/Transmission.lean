import LocatorHealing.Action
import LocatorHealing.Proofs.Service.Redirects
import LocatorHealing.Proofs.Service.Request

set_option autoImplicit false
set_option relaxedAutoImplicit false

/-!
Asking the service over HTTP, in two halves: a request that the network ends in its own way, and the
reading of that end. What happens in between does not depend on the reading.
-/

namespace LocatorHealing

variable {ε τ α β : Type}

namespace Action

variable [TimeScale τ]

private theorem run_each_happen (happenings : List (Happening τ (FollowUp τ))) (w : World ε τ) :
    ∃ v, (each happenings happen : Action ε τ Unit).run w = (.ok (), v) ∨
      (each happenings happen : Action ε τ Unit).run w = (.error .numberTooLarge, v) := by
  induction happenings generalizing w with
  | nil => exact ⟨w, .inl rfl⟩
  | cons h rest ih =>
    rw [each_cons]
    cases h with
    | elapse duration =>
      cases later : TimeScale.add? w.clock duration with
      | none =>
        refine ⟨w, .inr (run_bind_error ?_)⟩
        simp [happen, elapse, sum, later]
      | some clock =>
        have passes : (happen (.elapse duration) : Action ε τ Unit).run w =
            (.ok (), { w with clock }) := by
          simp [happen, elapse, sum, later]
        rw [run_bind_ok passes]
        exact ih _
    | quit key => exact ih _
    | lose key => exact ih _
    | send further => exact ih _

def answering (exchange : ε → Exchange τ (FollowUp τ) α × ε) : Action ε τ α := do
  let x ← react exchange
  each x.happenings happen
  ofExcept x.answer

private theorem run_perform (call : Call ε τ α) (w : World ε τ) :
    ∃ trace, (perform call).run w = (answering call.exchange).run { w with trace } ∧
      ∀ other : Call ε τ β, other.event = call.event →
        (perform other).run w = (answering other.exchange).run { w with trace } := by
  cases shows : call.event with
  | none =>
    refine ⟨w.trace, ?_, fun other same => ?_⟩
    · rw [perform, shows]
      rfl
    · rw [perform, same]
      rfl
  | some event =>
    refine ⟨w.trace ++ [⟨w.clock, event⟩], ?_, fun other same => ?_⟩
    · rw [perform, shows]
      rfl
    · rw [perform, same]
      rfl

/-- How a call ends can be read afterwards, by a reading that leaves it alone that the time gets too
large. -/
private theorem run_perform_mapAnswer {g : Except Fault α → Except Fault β}
    (leaves : g (.error .numberTooLarge) = .error .numberTooLarge) (call : Call ε τ α)
    (w : World ε τ) :
    (perform (call.mapAnswer g)).run w =
      (g ((perform call).run w).1, ((perform call).run w).2) := by
  obtain ⟨trace, ran, others⟩ := run_perform (β := β) call w
  rw [others (call.mapAnswer g) rfl, ran]
  simp only [answering, run_bind, run_react, andThen_ok, Call.mapAnswer]
  obtain ⟨v, came | stopped⟩ := run_each_happen (call.exchange w.outside).1.happenings
    { w with trace, outside := (call.exchange w.outside).2 }
  · simp only [came, andThen_ok, run_ofExcept]
  · simp only [stopped, andThen_error, leaves]

private theorem answer_perform_of_quiet {call : Call ε τ α} {w : World ε τ}
    (quiet : (call.exchange w.outside).1.happenings = []) :
    ((perform call).run w).1 = (call.exchange w.outside).1.answer := by
  obtain ⟨trace, ran, -⟩ := run_perform (β := α) call w
  rw [ran, answering, run_bind, run_react, andThen_ok, quiet]
  change ((ofExcept _).run _).1 = _
  rw [run_ofExcept]

end Action

/-- The call that an inquiry is made with over HTTP, ending as the network ends it. -/
def Inquiry.transmission [Outside ε τ] [TimeScale τ] (q : Inquiry τ) (client : Settings τ) :
    Call ε τ HttpAnswer :=
  match q.barrier? ε client with
  | some fault => .fail fault
  | none => Http.sending (q.request client)

namespace Http

variable {fault : Fault}

private theorem untimely_headerFault? {value : String} (faulty : headerFault? value = some fault) :
    fault.kind ≠ .timeout := by
  unfold headerFault? at faulty
  grind [Fault.kind]

private theorem untimely_headersFault? {headers : Members}
    (faulty : headersFault? headers = some fault) : fault.kind ≠ .timeout := by
  obtain ⟨p, -, found⟩ := List.exists_of_findSome?_eq_some faulty
  unfold valueFault? at found
  split at found
  · exact untimely_headerFault? found
  · cases found

private theorem untimely_lineFault? {method : HttpMethod} {location selector : String}
    {headers : Members} (faulty : lineFault? method location selector headers = some fault) :
    fault.kind ≠ .timeout := by
  have control {part : String} (found : controlIn? part = some fault) : fault.kind ≠ .timeout := by
    obtain ⟨c, -, rfl⟩ := Option.map_eq_some_iff.1 found
    exact nofun
  unfold lineFault? at faulty
  split at faulty
  · rename_i other names
    unfold hostOf at names
    grind [Fault.kind]
  · simp only [Option.orElse_eq_orElse, Option.orElse_eq_or, Option.or_eq_some_iff,
      Option.map_eq_some_iff] at faulty
    rcases faulty with host | ⟨-, path | ⟨-, ⟨defect, -, rfl⟩ | ⟨-, header | ⟨-, header⟩⟩⟩⟩
    · exact control host
    · exact control path
    · exact nofun
    · exact untimely_headerFault? header
    · exact untimely_headersFault? header

private theorem untimely_barrier? {ε τ : Type} [Outside ε τ] {url : String} {r : HttpRequest τ}
    (barred : barrier? ε url r = some fault) : fault.kind ≠ .timeout := by
  rcases Option.or_eq_some_iff.1 barred with refused | ⟨-, objected⟩
  · unfold refusal? at refused
    grind [Fault.kind]
  · unfold objected? objection? at objected
    dsimp only at objected
    split at objected
    · split at objected
      · split at objected
        · exact untimely_lineFault? objected
        · cases objected
          exact nofun
      · split at objected
        · cases objected
        · cases objected
          exact nofun
    · cases objected

end Http

private theorem Service.call_http_transmission [Outside ε τ] [TimeScale τ] (client : Settings τ)
    (q : Inquiry τ) :
    (Service.http client : Service ε τ).call q =
      ((q.transmission client).mapAnswer
        (Http.readAnswer ε (TimeScale.text (q.timeout client)))).mapAnswer q.readAnswer := by
  unfold Inquiry.transmission
  cases barred : q.barrier? ε client with
  | none => exact call_http barred
  | some fault =>
    have other := Http.untimely_barrier? barred
    rw [call_http_barred barred]
    simp [Call.mapAnswer, Call.fail, Http.readAnswer, other]

def Inquiry.transmit [Outside ε τ] [TimeScale τ] (q : Inquiry τ) (client : Settings τ) :
    Action ε τ HttpAnswer := do
  Action.note (.asked q)
  Action.perform (q.transmission client)

/-- A request that leaves ends as the network answers, if nothing happens meanwhile and the answer
redirects nowhere. -/
theorem Inquiry.answer_transmit_of_quiet [Outside ε τ] [TimeScale τ] {q : Inquiry τ}
    {client : Settings τ} {w : World ε τ} (leaves : q.barrier? ε client = none)
    (quiet : (Outside.send (q.request client) w.outside).1.happenings = [])
    (stays : ¬HttpAnswer.Redirects (Outside.send (q.request client) w.outside).1.answer) :
    ((q.transmit client).run w).1 = (Outside.send (q.request client) w.outside).1.answer := by
  have once (v : World ε τ) (same : v.outside = w.outside) :
      (Http.sending (q.request client)).exchange v.outside =
        ((Outside.send (q.request client) w.outside).1.lift,
          (Outside.send (q.request client) w.outside).2) := by
    rw [same]
    exact Http.exchange_sending_of_stays stays
  unfold transmit transmission
  rw [leaves, Action.run_bind, Action.note, Action.run_modify, Action.andThen_ok]
  refine (Action.answer_perform_of_quiet ?_).trans ?_
  · rw [once _ rfl, Exchange.lift, quiet]
    rfl
  · rw [once _ rfl]
    rfl

theorem Service.run_ask_http [Outside ε τ] [TimeScale τ] (client : Settings τ) {q : Inquiry τ}
    (leaves : q.readAnswer (.error .numberTooLarge) = .error .numberTooLarge) (w : World ε τ) :
    (Action.ask (Service.http client) q).run w =
      (q.readAnswer (Http.readAnswer ε (TimeScale.text (q.timeout client))
        ((q.transmit client).run w).1), ((q.transmit client).run w).2) := by
  have late : Http.readAnswer ε (TimeScale.text (q.timeout client)) (.error .numberTooLarge) =
      .error .numberTooLarge := rfl
  rw [Action.ask, Inquiry.transmit, Service.call_http_transmission, Action.run_bind,
    Action.run_bind, Action.note, Action.run_modify, Action.andThen_ok, Action.andThen_ok,
    Action.run_perform_mapAnswer leaves, Action.run_perform_mapAnswer late]

end LocatorHealing
