import LocatorHealing.Proofs.Action.Frame
import LocatorHealing.Proofs.Session.Driver

set_option autoImplicit false
set_option relaxedAutoImplicit false

/-!
How often an action does things of one kind. What it does is what it appends to the trace, however
it ends, so that the costs of actions that follow each other add up.
-/

namespace LocatorHealing

variable {ε τ α β : Type}

open Classical in
noncomputable def tally (kind : Event τ → Prop) (t : List (TraceEntry τ)) : Nat :=
  t.countP fun e => decide (kind e.event)

@[simp] theorem tally_append (kind : Event τ → Prop) (s t : List (TraceEntry τ)) :
    tally kind (s ++ t) = tally kind s + tally kind t := by
  simp [tally]

/-- From one world to another, the trace has grown by at most `n` events of a kind. -/
def World.Sees (kind : Event τ → Prop) (n : Nat) (w v : World ε τ) : Prop :=
  ∃ t, v.trace = w.trace ++ t ∧ tally kind t ≤ n

/-- An action does at most `n` things of a kind. -/
abbrev Action.Costs (kind : Event τ → Prop) (n : Nat) (x : Action ε τ α) : Prop :=
  Action.Keeps (World.Sees kind n) x

/-- Sleeping, the requests of a service and sessions that are closed do not count. -/
structure Uncounted (kind : Event τ → Prop) : Prop where
  sleeps : ∀ duration, ¬ kind (.slept duration)
  requests : ∀ request, ¬ kind (.http request)
  quits : ∀ key, ¬ kind (.driver key .quit)

theorem uncounted_false : Uncounted (fun _ : Event τ => False) :=
  ⟨fun _ => id, fun _ => id, fun _ => id⟩

variable {kind : Event τ → Prop} {n m : Nat}

namespace World.Sees

theorem refl (w : World ε τ) : w.Sees kind 0 w :=
  ⟨[], (List.append_nil _).symm, Nat.le_refl 0⟩

theorem trans {u v w : World ε τ} (first : u.Sees kind n v) (second : v.Sees kind m w) :
    u.Sees kind (n + m) w := by
  obtain ⟨s, grown, few⟩ := first
  obtain ⟨t, again, more⟩ := second
  refine ⟨s ++ t, ?_, ?_⟩
  · rw [again, grown, List.append_assoc]
  · rw [tally_append]
    exact Nat.add_le_add few more

theorem mono {w v : World ε τ} (sees : w.Sees kind n v) (le : n ≤ m) : w.Sees kind m v := by
  obtain ⟨t, grown, few⟩ := sees
  exact ⟨t, grown, Nat.le_trans few le⟩

theorem grows {w v : World ε τ} (sees : w.Sees kind n v) : w.Sees (fun _ => False) 0 v := by
  obtain ⟨t, grown, -⟩ := sees
  refine ⟨t, grown, Nat.le_of_eq ?_⟩
  unfold tally
  exact List.countP_eq_zero.2 fun _ _ => by simp

theorem tally_le {w v : World ε τ} (sees : w.Sees kind n v) {t : List (TraceEntry τ)}
    (grown : v.trace = w.trace ++ t) : tally kind t ≤ n := by
  obtain ⟨s, same, few⟩ := sees
  obtain rfl : s = t := List.append_cancel_left (same.symm.trans grown)
  exact few

theorem not_mem {w v : World ε τ} (sees : w.Sees kind 0 v) {t : List (TraceEntry τ)}
    (grown : v.trace = w.trace ++ t) : ∀ entry ∈ t, ¬kind entry.event := by
  have none := Nat.le_zero.1 (sees.tally_le grown)
  intro entry member
  have apart := List.countP_eq_zero.1 none entry member
  simpa using apart

end World.Sees

theorem frame_sees : Frame (World.Sees (ε := ε) kind 0) where
  refl w := .refl w
  trans first second := first.trans second
  log w _ _ := .refl w
  clock w _ := .refl w

namespace Action.Costs

theorem mono {x : Action ε τ α} (costs : Costs kind n x) (le : n ≤ m) : Costs kind m x :=
  fun w => (costs w).mono le

theorem of_keeps {x : Action ε τ α} (keeps : Keeps (World.Sees kind 0) x) : Costs kind n x :=
  fun w => (keeps w).mono (Nat.zero_le n)

theorem bind {x : Action ε τ α} {f : α → Action ε τ β} (first : Costs kind n x)
    (second : ∀ a, Costs kind m (f a)) : Costs kind (n + m) (x >>= f) := by
  intro w
  have started := first w
  rcases h : x.run w with ⟨fault | a, v⟩
  · rw [run_bind_error h]
    rw [h] at started
    exact started.mono (Nat.le_add_right n m)
  · rw [run_bind_ok h]
    rw [h] at started
    exact started.trans (second a v)

theorem andQuiet {x : Action ε τ α} {f : α → Action ε τ β} (first : Costs kind n x)
    (second : ∀ a, Keeps (World.Sees kind 0) (f a)) : Costs kind n (x >>= f) :=
  first.bind fun a => of_keeps (n := 0) (second a)

theorem quietThen {x : Action ε τ α} {f : α → Action ε τ β}
    (first : Keeps (World.Sees kind 0) x) (second : ∀ a, Costs kind n (f a)) :
    Costs kind n (x >>= f) :=
  (bind (of_keeps (n := 0) first) second).mono (Nat.le_of_eq (Nat.zero_add n))

theorem note {event : Event τ} (counts : kind event → 1 ≤ n) :
    Costs kind n (Action.note event : Action ε τ Unit) := by
  intro w
  refine ⟨[⟨w.clock, event⟩], rfl, ?_⟩
  unfold tally
  by_cases counted : kind event
  · simpa [counted] using counts counted
  · simp [counted]

variable [TimeScale τ] (uncounted : Uncounted kind)
include uncounted

theorem happen (h : Happening τ (FollowUp τ)) :
    Keeps (World.Sees kind 0) (Action.happen h : Action ε τ Unit) := by
  cases h with
  | elapse duration => exact frame_sees.keeps_elapse duration
  | quit key =>
    exact frame_sees.keeps_bind (fun w => .refl w) fun _ =>
      note fun counted => absurd counted (uncounted.quits key)
  | lose key => exact fun w => .refl w
  | send further => exact note fun counted => absurd counted (uncounted.requests _)

theorem perform {call : Call ε τ α}
    (counts : ∀ event, call.event = some event → kind event → 1 ≤ n) :
    Costs kind n (Action.perform call) := by
  have rest : Keeps (World.Sees kind 0) (do
      let x ← Action.react call.exchange
      Action.each x.happenings Action.happen
      Action.ofExcept x.answer) :=
    frame_sees.keeps_bind (fun w => .refl w) fun _ =>
      frame_sees.keeps_bind (frame_sees.keeps_each fun h _ => happen uncounted h) fun _ =>
        frame_sees.keeps_ofExcept _
  unfold Action.perform
  cases shows : call.event with
  | none => exact of_keeps (frame_sees.keeps_bind (frame_sees.keeps_pure ()) fun _ => rest)
  | some event => exact (note (counts event shows)).andQuiet fun _ => rest

theorem ask {service : Service ε τ} {inquiry : Inquiry τ} (counts : kind (.asked inquiry) → 1 ≤ n) :
    Costs kind n (Action.ask service inquiry) := by
  refine (note counts).andQuiet fun _ => perform uncounted fun event shows counted => ?_
  obtain ⟨request, rfl⟩ := service.shows_request inquiry event shows
  exact absurd counted (uncounted.requests request)

theorem loop {x : Action ε τ α} (isGood : α → Bool) (interval deadline : τ) (isBound : Bool)
    (costs : Costs kind n x) (calls : Nat) :
    Costs kind (calls * n) (Wait.loop x isGood interval deadline isBound calls) := by
  have sleeps (duration : τ) :
      Keeps (World.Sees kind 0) (Action.note (.slept duration) : Action ε τ Unit) :=
    note fun counted => absurd counted (uncounted.sleeps duration)
  induction calls with
  | zero => exact of_keeps (frame_sees.keeps_pure _)
  | succ calls ih =>
    unfold Wait.loop
    refine (costs.bind (m := calls * n) fun answer => ?_).mono ?_
    · split
      · exact of_keeps (frame_sees.keeps_pure _)
      split
      · exact of_keeps (frame_sees.keeps_pure _)
      refine quietThen (frame_sees.keeps_timeUntil deadline) fun remaining => ?_
      split
      · exact of_keeps (frame_sees.keeps_pure _)
      · exact quietThen (frame_sees.keeps_sleep sleeps _) fun _ => ih
    · have same : (calls + 1) * n = n + calls * n := by rw [Nat.succ_mul, Nat.add_comm]
      exact Nat.le_of_eq same.symm

variable [Outside ε τ]

theorem driverLookup {key : String} {strategy value : Json}
    (counts : kind (.driver key (.find strategy value)) → 1 ≤ n) :
    Costs kind n (Session.driverLookup key strategy value : Action ε τ Outcome) := by
  refine Session.keeps_driverLookup_of (fun w => (World.Sees.refl w).mono (Nat.zero_le n))
    fun w _ => perform uncounted (fun event shows counted => ?_) w
  cases shows
  exact counts counted

theorem execute {key script : String} {arguments : List Json}
    (counts : kind (.driver key (.script script arguments)) → 1 ≤ n) :
    Costs kind n (Session.execute key script arguments : Action ε τ Json) := by
  refine Session.keeps_execute_of (fun w => (World.Sees.refl w).mono (Nat.zero_le n))
    fun w _ => perform uncounted (fun event shows counted => ?_) w
  cases shows
  exact counts counted

end Action.Costs

end LocatorHealing
