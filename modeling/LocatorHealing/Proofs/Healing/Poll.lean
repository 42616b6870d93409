import LocatorHealing.Proofs.Action.Request
import LocatorHealing.Proofs.Healing.Parts
import LocatorHealing.Proofs.Service.Request
import LocatorHealing.Proofs.Still
import LocatorHealing.Proofs.Wait
import Mathlib.Data.List.Basic
import Mathlib.Data.List.Flatten

set_option autoImplicit false
set_option relaxedAutoImplicit false

/-!
Polling within its bounds, in exact time. Polls are sent from the worlds in which the wait calls,
while the session is there and time is left; each is given what is left, up to the limit of a single
request.
-/

namespace LocatorHealing

variable {ε : Type}

def TraceEntry.asked? : TraceEntry Rat → Option (Rat × Inquiry Rat)
  | ⟨clock, .asked inquiry⟩ => some (clock, inquiry)
  | _ => none

def TraceEntry.sent? : TraceEntry Rat → Option (Rat × Rat)
  | ⟨clock, .http request⟩ => if request.method = .post then some (clock, request.timeout) else none
  | _ => none

namespace Healing.Run

def pollDeadline (r : Run ε Rat) (w : World ε Rat) : Rat :=
  w.clock + r.healing.settings.pollTimeout

def inquiryAt (r : Run ε Rat) (deadline : Rat) (v : World ε Rat) : Inquiry Rat :=
  .poll r.healing.settings.serviceUrl r.report.sessionId r.healing.auth.sessionToken
    (some (deadline - v.clock))

def sends (r : Run ε Rat) (deadline : Rat) (v : World ε Rat) : Bool :=
  (v.sessions r.session).isActive && v.clock < deadline

def callWorlds (r : Run ε Rat) (w : World ε Rat) : List (World ε Rat) :=
  Wait.callWorlds (r.pollOnce (r.pollDeadline w)) Option.isSome r.healing.settings.pollInterval
    (r.pollDeadline w) true r.healing.settings.pollMaxAttempts w

def pollWorlds (r : Run ε Rat) (w : World ε Rat) : List (World ε Rat) :=
  (r.callWorlds w).filter (r.sends (r.pollDeadline w))

section Once

variable {r : Run ε Rat} {deadline : Rat} {v : World ε Rat}

private theorem run_pollOnce_of_sends (sends : r.sends deadline v = true) :
    (r.pollOnce deadline).run v =
      (Action.ask r.healing.service (r.inquiryAt deadline v)).run v := by
  obtain ⟨active, early⟩ : (v.sessions r.session).isActive = true ∧ v.clock < deadline := by
    simpa [Run.sends] using sends
  have left : ¬TimeScale.isOver (deadline - v.clock) = true :=
    mt (TimeScale.isOver_sub_rat _ _).1 early.not_ge
  rw [pollOnce, Action.run_bind_ok (run_ensureActive_active active), Action.run_bind,
    Action.run_timeUntil_rat, Action.andThen_ok, if_neg left]
  rfl

private theorem run_pollOnce_of_not_sends (holds : r.sends deadline v = false) :
    ((r.pollOnce deadline).run v).2 = v := by
  cases active : (v.sessions r.session).isActive with
  | false => rw [pollOnce, Action.run_bind_error (run_ensureActive_inactive active)]
  | true =>
    have late : deadline ≤ v.clock := by simpa [Run.sends, active] using holds
    have past : TimeScale.isOver (deadline - v.clock) = true :=
      (TimeScale.isOver_sub_rat _ _).2 late
    rw [pollOnce, Action.run_bind_ok (run_ensureActive_active active), Action.run_bind,
      Action.run_timeUntil_rat, Action.andThen_ok, if_pos past, Action.run_pure]

end Once

variable (r : Run ε Rat) (w : World ε Rat)

private theorem course_poll : ∃ z, (r.poll.run w).2 = z.2 ∧
    Wait.Course (r.pollOnce (r.pollDeadline w)) Option.isSome r.healing.settings.pollInterval
      (r.pollDeadline w) true r.healing.settings.pollMaxAttempts w (r.callWorlds w) z := by
  have calls : max 1 r.healing.settings.pollMaxAttempts = r.healing.settings.pollMaxAttempts :=
    Nat.max_eq_right r.healing.settings.pollMaxAttempts_pos
  refine ⟨_, ?_, Wait.course_loop _ _ _ _ _ _ _⟩
  unfold pollDeadline
  simp only [poll, Wait.wait, Action.run_bind, Action.run_read, Action.andThen_ok,
    Action.run_sum_rat, Wait.Calls.count, Wait.Calls.isBound, calls]
  generalize (Wait.loop _ _ _ _ _ _).run w = z
  obtain ⟨fault | ending, v⟩ := z
  · rfl
  · rfl

def entriesOf (r : Run ε Rat) (deadline : Rat) (v : World ε Rat) : List (TraceEntry Rat) :=
  ⟨v.clock, .asked (r.inquiryAt deadline v)⟩ ::
    ((r.healing.service.call (r.inquiryAt deadline v)).event.map fun event =>
      ⟨v.clock, event⟩).toList

section Trace

variable {β : Type} (shown : TraceEntry Rat → Option β)
  (quits : ∀ clock key, shown ⟨clock, .driver key .quit⟩ = none)
  (follows : ∀ clock (f : FollowUp Rat), shown ⟨clock, .http f.request⟩ = none)
include quits follows

private theorem trace_pollOnce (deadline : Rat) (v : World ε Rat) :
    ∃ t, ((r.pollOnce deadline).run v).2.trace = v.trace ++ t ∧
      t.filterMap shown = ([v].filter (r.sends deadline)).flatMap fun v =>
        (r.entriesOf deadline v).filterMap shown := by
  cases sends : r.sends deadline v with
  | false =>
    rw [run_pollOnce_of_not_sends sends, List.filter_cons_of_neg (by simp [sends])]
    exact ⟨[], (List.append_nil _).symm, rfl⟩
  | true =>
    obtain ⟨t, grown, passing⟩ :=
      Action.trace_ask r.healing.service (r.inquiryAt deadline v) v
    have quiet : t.filterMap shown = [] := by
      refine List.filterMap_eq_nil_iff.2 fun e there => ?_
      obtain ⟨clock, event⟩ := e
      cases passing _ there with
      | quit key => exact quits clock key
      | send _ => exact follows clock _
    rw [run_pollOnce_of_sends sends, grown, List.append_assoc, List.filter_cons_of_pos sends]
    refine ⟨r.entriesOf deadline v ++ t, rfl, ?_⟩
    rw [List.filterMap_append, quiet]
    rfl

private theorem trace_poll (sleeps : ∀ clock duration, shown ⟨clock, .slept duration⟩ = none) :
    ∃ t, (r.poll.run w).2.trace = w.trace ++ t ∧
      t.filterMap shown = (r.pollWorlds w).flatMap fun v =>
        (r.entriesOf (r.pollDeadline w) v).filterMap shown := by
  obtain ⟨z, same, course⟩ := course_poll r w
  rw [same]
  exact course.trace_eq shown _ _ sleeps fun v _ => trace_pollOnce r shown quits follows _ v

end Trace

/-- The world in which a poll that is sent from a world has come to an end. -/
def worldAfter (r : Run ε Rat) (deadline : Rat) (v : World ε Rat) : World ε Rat :=
  ((Action.ask r.healing.service (r.inquiryAt deadline v)).run v).2

section Bounds

variable {r w}

private theorem clock_lt_of_mem {v : World ε Rat} (there : v ∈ r.pollWorlds w) :
    v.clock < r.pollDeadline w := by
  have sends := (List.mem_filter.1 there).2
  simp only [Run.sends, Bool.and_eq_true, decide_eq_true_eq] at sends
  exact sends.2

private theorem length_pollWorlds_le :
    (r.pollWorlds w).length ≤ r.healing.settings.pollMaxAttempts := by
  obtain ⟨z, -, course⟩ := course_poll r w
  exact (List.length_filter_le _ _).trans course.length_le

/-- What holds of the polls that are sent, and of a world that nothing has changed, holds of all
calls of the wait. -/
private theorem forall_callWorlds {P : World ε Rat → World ε Rat → Prop} (refl : ∀ v, P v v)
    (polls : ∀ v ∈ r.pollWorlds w, P v (r.worldAfter (r.pollDeadline w) v)) :
    ∀ v ∈ r.callWorlds w, P v ((r.pollOnce (r.pollDeadline w)).run v).2 := by
  intro v there
  cases sends : r.sends (r.pollDeadline w) v with
  | true =>
    rw [run_pollOnce_of_sends sends]
    exact polls v (List.mem_filter.2 ⟨there, sends⟩)
  | false =>
    rw [run_pollOnce_of_not_sends sends]
    exact refl v

private theorem pollWorlds_sorted
    (forward : ∀ v ∈ r.pollWorlds w, v.clock ≤ (r.worldAfter (r.pollDeadline w) v).clock) :
    (r.pollWorlds w).Pairwise fun u v => u.clock ≤ v.clock := by
  obtain ⟨z, -, course⟩ := course_poll r w
  refine (course.clock_sorted
    (forall_callWorlds (P := fun v u => v.clock ≤ u.clock) ?_ ?_)).filter _
  · exact fun v => le_refl _
  · exact forward

private theorem clock_poll_le
    (punctual : ∀ v ∈ r.pollWorlds w,
      (r.worldAfter (r.pollDeadline w) v).clock ≤ r.pollDeadline w) :
    (r.poll.run w).2.clock ≤ max w.clock (r.pollDeadline w) := by
  obtain ⟨z, same, course⟩ := course_poll r w
  rw [same]
  refine course.clock_le (forall_callWorlds
    (P := fun v u => u.clock ≤ max v.clock (r.pollDeadline w)) ?_ ?_)
  · exact fun v => le_max_left _ _
  · exact fun v there => le_max_of_le_right (punctual v there)

end Bounds

section Entries

variable (deadline : Rat) (v : World ε Rat)

private theorem asked_entriesOf :
    (r.entriesOf deadline v).filterMap TraceEntry.asked? = [(v.clock, r.inquiryAt deadline v)] := by
  unfold entriesOf
  cases shows : (r.healing.service.call (r.inquiryAt deadline v)).event with
  | none => rfl
  | some event =>
    obtain ⟨request, rfl⟩ := r.healing.service.shows_request _ _ shows
    rfl

/-- Of a poll at most one request leaves, which is given what is left of the time, up to the limit
of the settings. -/
private theorem sent_entriesOf [Outside ε Rat]
    (plain : r.healing.service = .http r.healing.settings) :
    ((r.entriesOf deadline v).filterMap TraceEntry.sent?).Sublist
      [(v.clock, min r.healing.settings.requestTimeout (deadline - v.clock))] := by
  unfold entriesOf
  cases shows : (r.healing.service.call (r.inquiryAt deadline v)).event with
  | none => exact List.nil_sublist _
  | some event =>
    obtain ⟨request, rfl⟩ := r.healing.service.shows_request _ _ shows
    rw [plain] at shows
    rw [Event.http.inj (Service.event_http shows)]
    have given : (r.inquiryAt deadline v).timeout r.healing.settings =
        min r.healing.settings.requestTimeout (deadline - v.clock) := TimeScale.least_rat _ _
    rw [← given]
    exact List.Sublist.refl _

end Entries

/-- Polling sends as many polls as the settings allow at most, all of them before the deadline. Each
is given what is left until then, up to the limit of a single request, so that none is given more
than one before it; and if none takes longer than that, polling is over in time, however it ends. -/
theorem poll_bounded [Outside ε Rat] :
    let settings := r.healing.settings
    let deadline := w.clock + settings.pollTimeout
    let polls := r.pollWorlds w
    let timeout (v : World ε Rat) : Rat := min settings.requestTimeout (deadline - v.clock)
    polls.length ≤ settings.pollMaxAttempts ∧
    (∀ v ∈ polls, v.clock < deadline) ∧
    (∃ t, (r.poll.run w).2.trace = w.trace ++ t ∧
      t.filterMap TraceEntry.asked? = polls.map (fun v => (v.clock, r.inquiryAt deadline v)) ∧
      (∀ v ∈ polls, (r.inquiryAt deadline v).timeout settings = timeout v) ∧
      (r.healing.service = .http settings →
        (t.filterMap TraceEntry.sent?).Sublist (polls.map fun v => (v.clock, timeout v)))) ∧
    ((∀ v ∈ polls, v.clock ≤ (r.worldAfter deadline v).clock) →
      (polls.map timeout).Pairwise fun earlier later => later ≤ earlier) ∧
    ((∀ v ∈ polls, (r.worldAfter deadline v).clock ≤ v.clock + timeout v) →
      (r.poll.run w).2.clock ≤ w.clock + max 0 settings.pollTimeout) := by
  intro settings deadline polls timeout
  obtain ⟨t, grown, asked⟩ :=
    trace_poll r w TraceEntry.asked? (fun _ _ => rfl) (fun _ _ => rfl) fun _ _ => rfl
  obtain ⟨s, same, sent⟩ :=
    trace_poll r w TraceEntry.sent? (fun _ _ => rfl) (fun _ _ => rfl) fun _ _ => rfl
  -- both views are of the same part of the trace
  obtain rfl : s = t := List.append_cancel_left (same.symm.trans grown)
  refine ⟨length_pollWorlds_le, fun v there => clock_lt_of_mem there,
    ⟨s, grown, ?_, fun v _ => TimeScale.least_rat _ _, fun plain => ?_⟩, fun forward => ?_,
    fun punctual => ?_⟩
  · rw [asked, List.map_eq_flatMap]
    exact List.flatMap_congr fun v _ => asked_entriesOf r _ v
  · rw [sent, List.map_eq_flatMap]
    exact List.Sublist.flatMap_right _ fun v _ => sent_entriesOf r _ v plain
  · refine List.pairwise_map.2 ((pollWorlds_sorted forward).imp fun {u v} before => ?_)
    exact min_le_min_left _ (sub_le_sub_left before _)
  · rw [← max_add_add_left, add_zero]
    refine clock_poll_le fun v there => ?_
    have given : timeout v ≤ deadline - v.clock := min_le_right _ _
    have ends := punctual v there
    calc
      (r.worldAfter deadline v).clock ≤ v.clock + timeout v := ends
      _ ≤ v.clock + (deadline - v.clock) := by gcongr
      _ = deadline := add_sub_cancel _ _

/-- A run over HTTP in still surroundings, with a second for a request, and one and a half to poll
in. -/
def brief : Run Still Rat :=
  let r := Manner.run {} {} { selfHeal := true } none "old"
  let settings := { r.healing.settings with requestTimeout := 1, pollTimeout := 3 / 2 }
  { r with healing := { r.healing with settings, service := .http settings } }

def briefWorld : World Still Rat :=
  Manner.world {} {} { selfHeal := true } none "new"

private theorem clock_worldAfter_still {r : Run Still Rat}
    (plain : r.healing.service = .http r.healing.settings) (deadline : Rat) (v : World Still Rat) :
    (r.worldAfter deadline v).clock = v.clock := by
  have quiet (s : Still) :
      ((r.healing.service.call (r.inquiryAt deadline v)).exchange s).1.happenings = [] := by
    rw [plain]
    exact Still.happenings_http _ _ s
  change ((Action.perform _).run { v with trace := _ }).2.clock = _
  exact Action.clock_perform_of_quiet (quiet _)

private theorem clocks_brief : (brief.pollWorlds briefWorld).map World.clock = [0, 1] := by
  decide +kernel

/-- Two of three polls are sent: the second sleep ends with the time. -/
theorem poll_bounded_brief :
    let polls := brief.pollWorlds briefWorld
    (brief.healing.service = .http brief.healing.settings ∧
      (∀ v ∈ polls, v.clock ≤ (brief.worldAfter (3 / 2) v).clock) ∧
      ∀ v ∈ polls, (brief.worldAfter (3 / 2) v).clock ≤ v.clock + min 1 (3 / 2 - v.clock)) ∧
    polls.map World.clock = [0, 1] ∧
    ((brief.poll.run briefWorld).2.trace.filterMap TraceEntry.sent?).Sublist
      [(0, 1), (1, 1 / 2)] ∧
    (polls.map fun v => min 1 (3 / 2 - v.clock)).Pairwise (fun earlier later => later ≤ earlier) ∧
    (brief.poll.run briefWorld).2.clock ≤ 3 / 2 := by
  intro polls
  have plain : brief.healing.service = .http brief.healing.settings := rfl
  have deadline : briefWorld.clock + brief.healing.settings.pollTimeout = 3 / 2 := zero_add _
  obtain ⟨-, early, ⟨t, grown, -, -, sent⟩, sorted, ends⟩ := poll_bounded brief briefWorld
  rw [deadline] at early sent sorted ends
  have still (v : World Still Rat) : (brief.worldAfter (3 / 2) v).clock = v.clock :=
    clock_worldAfter_still plain _ v
  have forward : ∀ v ∈ polls, v.clock ≤ (brief.worldAfter (3 / 2) v).clock :=
    fun v _ => (still v).ge
  have punctual : ∀ v ∈ polls,
      (brief.worldAfter (3 / 2) v).clock ≤ v.clock + min 1 (3 / 2 - v.clock) := by
    intro v there
    have left : 0 ≤ min 1 (3 / 2 - v.clock) :=
      le_min zero_le_one (sub_nonneg.2 (early v there).le)
    rw [still]
    exact le_add_of_nonneg_right left
  refine ⟨⟨plain, forward, punctual⟩, clocks_brief, ?_, sorted forward, ?_⟩
  · have timeouts : (polls.map fun v => (v.clock, min 1 (3 / 2 - v.clock))) =
        [(0, 1), (1, 1 / 2)] := calc
      _ = (polls.map World.clock).map fun clock => (clock, min 1 (3 / 2 - clock)) :=
        List.map_map.symm
      _ = [0, 1].map fun clock => (clock, min 1 (3 / 2 - clock)) := by rw [clocks_brief]
      _ = [(0, 1), (1, 1 / 2)] := by decide +kernel
    rw [grown, ← timeouts]
    exact sent plain
  · have time : briefWorld.clock + max 0 brief.healing.settings.pollTimeout = 3 / 2 := by
      decide +kernel
    rw [← time]
    exact ends punctual

end Healing.Run

end LocatorHealing
