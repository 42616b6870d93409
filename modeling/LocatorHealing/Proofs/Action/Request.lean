import LocatorHealing.Proofs.Action.Frame
import LocatorHealing.Service.Http

set_option autoImplicit false
set_option relaxedAutoImplicit false

/-!
What a call shows in the trace: the request that leaves, at the time at which the call is made, and
after it no more than the sessions that are closed while it is under way, and what is sent where the
request is redirected to.
-/

namespace LocatorHealing

open LocatorHealing.Action (Keeps)

variable {ε τ α : Type}

section Growth

/-- From one world to another, the trace has grown by events that are allowed, and by no others. -/
def World.Adds (allowed : Event τ → Prop) (w v : World ε τ) : Prop :=
  ∃ t, v.trace = w.trace ++ t ∧ ∀ e ∈ t, allowed e.event

variable {allowed : Event τ → Prop} {w v : World ε τ}

theorem World.Adds.of_trace (same : v.trace = w.trace) : w.Adds allowed v :=
  ⟨[], same.trans (List.append_nil _).symm, nofun⟩

theorem World.Adds.refl (w : World ε τ) : w.Adds allowed w :=
  .of_trace rfl

theorem World.Adds.mono {more : Event τ → Prop} (adds : w.Adds allowed v)
    (le : ∀ e, allowed e → more e) : w.Adds more v := by
  obtain ⟨t, grown, all⟩ := adds
  exact ⟨t, grown, fun e there => le _ (all e there)⟩

theorem frame_adds (allowed : Event τ → Prop) : Frame (World.Adds (ε := ε) allowed) where
  refl w := .refl w
  trans := by
    intro u v w first second
    obtain ⟨s, grown, before⟩ := first
    obtain ⟨t, again, after⟩ := second
    refine ⟨s ++ t, by rw [again, grown, List.append_assoc], fun e there => ?_⟩
    rcases List.mem_append.1 there with early | late
    · exact before e early
    · exact after e late
  log w _ _ := .refl w
  clock w _ := .refl w

end Growth

/-- What may show of a call while it is under way. -/
inductive Call.Passes (call : Call ε τ α) : Event τ → Prop
  | quit (key : String) : call.Passes (.driver key .quit)
  | send {s : ε} {f : FollowUp τ} (sent : .send f ∈ (call.exchange s).1.happenings) :
    call.Passes (.http f.request)

theorem Call.quit_of_passes {event shown : Event τ} {exchange : ε → Exchange τ Empty α × ε}
    (passes : (Call.showing shown exchange).Passes event) : ∃ key, event = .driver key .quit := by
  cases passes with
  | quit key => exact ⟨key, rfl⟩
  | @send s f sent =>
    obtain ⟨h, -, same⟩ := List.mem_map.1 sent
    cases h with
    | send nothing => exact nothing.elim
    | _ => cases same

namespace Action

variable {allowed : Event τ → Prop}

theorem adds_note {event : Event τ} (allows : allowed event) :
    Keeps (World.Adds allowed) (Action.note event : Action ε τ Unit) := by
  intro w
  refine ⟨[⟨w.clock, event⟩], rfl, fun e there => ?_⟩
  rw [List.mem_singleton.1 there]
  exact allows

variable [TimeScale τ]

theorem trace_perform (call : Call ε τ α) (w : World ε τ) :
    ∃ t, ((perform call).run w).2.trace =
        w.trace ++ (call.event.map fun event => ⟨w.clock, event⟩).toList ++ t ∧
      ∀ e ∈ t, call.Passes e.event := by
  have happens (s : ε) (h : Happening τ (FollowUp τ)) (there : h ∈ (call.exchange s).1.happenings) :
      Keeps (World.Adds call.Passes) (Action.happen h : Action ε τ Unit) := by
    cases h with
    | elapse duration => exact (frame_adds _).keeps_elapse duration
    | quit key =>
      exact (frame_adds _).keeps_bind (fun w => .of_trace rfl) fun _ => adds_note (.quit key)
    | lose key => exact fun w => .of_trace rfl
    | send f => exact adds_note (.send there)
  have rest : Keeps (World.Adds call.Passes) (do
      let x ← react call.exchange
      each x.happenings happen
      ofExcept x.answer : Action ε τ α) := by
    intro w
    have all := (frame_adds call.Passes).keeps_each (happens w.outside)
    refine (frame_adds _).trans (World.Adds.of_trace (v := ((react call.exchange).run w).2) rfl) ?_
    exact (frame_adds _).keeps_bind all (fun _ => (frame_adds _).keeps_ofExcept _) _
  unfold perform
  cases shows : call.event with
  | none =>
    rw [Option.map_none, Option.toList_none, List.append_nil]
    exact rest w
  | some event => exact rest { w with trace := w.trace ++ [⟨w.clock, event⟩] }

theorem adds_perform {call : Call ε τ α}
    (shown : ∀ event, call.event = some event → allowed event)
    (passes : ∀ event, call.Passes event → allowed event) :
    Keeps (World.Adds allowed) (perform call) := by
  intro w
  obtain ⟨t, grown, passing⟩ := trace_perform call w
  refine ⟨_, grown.trans (List.append_assoc _ _ _), fun e there => ?_⟩
  rcases List.mem_append.1 there with first | later
  · obtain ⟨event, shows, rfl⟩ := Option.map_eq_some_iff.1 (Option.mem_toList.1 first)
    exact shown event shows
  · exact passes _ (passing e later)

theorem adds_ask {service : Service ε τ} {inquiry : Inquiry τ}
    (asked : allowed (.asked inquiry))
    (shown : ∀ event, (service.call inquiry).event = some event → allowed event)
    (passes : ∀ event, (service.call inquiry).Passes event → allowed event) :
    Keeps (World.Adds allowed) (ask service inquiry) :=
  (frame_adds allowed).keeps_bind (adds_note asked) fun _ => adds_perform shown passes

theorem clock_perform_of_quiet {call : Call ε τ α} {w : World ε τ}
    (quiet : (call.exchange w.outside).1.happenings = []) :
    ((perform call).run w).2.clock = w.clock := by
  have rest (trace : List (TraceEntry τ)) : ((do
      let x ← react call.exchange
      each x.happenings happen
      ofExcept x.answer : Action ε τ α).run { w with trace }).2.clock = w.clock := by
    rw [run_bind, run_react, andThen_ok, quiet]
    change ((ofExcept _).run _).2.clock = _
    rw [run_ofExcept]
  unfold perform
  cases call.event with
  | none => exact rest w.trace
  | some event => exact rest _

theorem trace_ask (service : Service ε τ) (inquiry : Inquiry τ) (w : World ε τ) :
    ∃ t, ((ask service inquiry).run w).2.trace =
        w.trace ++ ⟨w.clock, .asked inquiry⟩ ::
          ((service.call inquiry).event.map fun event => ⟨w.clock, event⟩).toList ++ t ∧
      ∀ e ∈ t, (service.call inquiry).Passes e.event := by
  obtain ⟨t, grown, passes⟩ := trace_perform (service.call inquiry)
    { w with trace := w.trace ++ [⟨w.clock, .asked inquiry⟩] }
  refine ⟨t, ?_, passes⟩
  rw [List.append_cons]
  exact grown

end Action

end LocatorHealing
