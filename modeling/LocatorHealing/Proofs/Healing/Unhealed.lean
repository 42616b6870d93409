import LocatorHealing.Proofs.Healing.Cost
import LocatorHealing.Proofs.Session.Audited
import LocatorHealing.Proofs.Session.Declined
import LocatorHealing.Proofs.Session.Doings
import LocatorHealing.Proofs.Wait.Doubles

set_option autoImplicit false
set_option relaxedAutoImplicit false

/-!
Polling that finds no locator. While the session is there and every poll is answered, though never
by a locator, polling raises nothing as long as it can sleep between two polls. The run ends with
the outcome of its first lookup then: it does not look again, and warns of nothing.
-/

namespace LocatorHealing

open LocatorHealing.Action (Keeps Costs)

variable {ε τ : Type}

def Event.IsFind : Event τ → Prop
  | .driver _ (.find _ _) => True
  | _ => False

private theorem uncounted_isFind : Uncounted (Event.IsFind (τ := τ)) :=
  ⟨fun _ => id, fun _ => id, fun _ => id⟩

namespace Healing.Run

section Vain

variable [TimeScale τ]

def pollsUntil (r : Run ε τ) (deadline : τ) (w : World ε τ) : List (World ε τ) :=
  Wait.callsFrom (r.pollOnce deadline) Option.isSome r.healing.settings.pollInterval deadline true
    r.healing.settings.pollMaxAttempts w

def pollWithin (r : Run ε τ) (left : τ) : Inquiry τ :=
  .poll r.healing.settings.serviceUrl r.report.sessionId r.healing.auth.sessionToken (some left)

/-- Polling that starts in a world finds the session there whenever it calls, and every poll that it
sends is answered, by no locator. -/
def PollsInVain (r : Run ε τ) (w : World ε τ) : Prop :=
  ∀ deadline, TimeScale.add? w.clock r.healing.settings.pollTimeout = some deadline →
    ∀ v ∈ r.pollsUntil deadline w, (v.sessions r.session).isActive = true ∧
      ∀ left, TimeScale.sub? deadline v.clock = some left → TimeScale.isOver left = false →
        ((Action.ask r.healing.service (r.pollWithin left)).run v).1 = .ok none

/-- No sleep between two polls is beyond the bounds of systems: the lesser of the interval and the
time that is left when a poll is over. -/
def RestsInBounds (r : Run ε τ) (w : World ε τ) : Prop :=
  ∀ deadline, TimeScale.add? w.clock r.healing.settings.pollTimeout = some deadline →
    ∀ v ∈ r.pollsUntil deadline w, ∀ left,
      TimeScale.sub? deadline ((r.pollOnce deadline).run v).2.clock = some left →
        TimeScale.isOver left = false →
          TimeScale.beyond? (TimeScale.least r.healing.settings.pollInterval left) = none

end Vain

section Double

variable {r : Run ε Number} {w : World ε Number}

private theorem stillReads_pollOnce (deadline : Number) :
    Keeps World.StillReads (r.pollOnce deadline) := by
  refine Action.stillReads_bind ?_ fun _ => Action.stillReads_bind ?_ fun left => ?_
  · refine Action.stillReads_bind (fun w reads => reads) fun session => ?_
    split
    · exact fun w reads => reads
    · exact fun w reads => reads
  · refine Action.stillReads_bind (fun w reads => reads) fun now w reads => ?_
    rwa [Action.difference, Action.run_ofExcept]
  · split
    · exact fun w reads => reads
    · exact Action.stillReads_ask _ _

private theorem restsInBounds_of_interval {x : Float}
    (real : r.healing.settings.pollInterval = .real x)
    (patient : 0.0 ≤ x) (short : x < TimeScale.sleepBound) (reads : w.ReadsDouble) :
    r.RestsInBounds w := by
  intro deadline added v there left subtracted ahead
  obtain ⟨z, clock⟩ := reads
  obtain ⟨d, rfl⟩ : ∃ d, deadline = .real d := by
    cases held : r.healing.settings.pollTimeout.toFloat? with
    | none =>
      rw [clock, TimeScale.add_eq_none (by simp [TimeScale.Fits, held])] at added
      cases added
    | some t =>
      obtain ⟨d, sum⟩ := TimeScale.add_real (t := r.healing.settings.pollTimeout)
        (by simp [TimeScale.Fits, held]) z
      rw [clock, sum] at added
      exact ⟨d, (Option.some.inj added).symm⟩
  have pauses (u : World ε Number) (reads : u.ReadsDouble) :
      ((Wait.pause r.healing.settings.pollInterval (.real d)).run u).2.ReadsDouble := by
    refine Action.stillReads_bind (fun w reads => ?_) (fun left => ?_) u reads
    · obtain ⟨_, -, until_⟩ := Action.run_timeUntil_double reads d
      rwa [until_]
    · split
      · exact fun w reads => reads
      · exact Action.stillReads_bind (Action.stillReads_sleep _) fun _ w reads => reads
  have polled : ((r.pollOnce (.real d)).run v).2.ReadsDouble :=
    r.stillReads_pollOnce _ v <| Wait.holds_of_mem_callsFrom
      (fun u reads => r.stillReads_pollOnce _ u reads) pauses there ⟨z, clock⟩
  obtain ⟨rest, same, -⟩ := Action.run_timeUntil_double polled d
  rw [subtracted] at same
  rw [Option.some.inj same] at ahead ⊢
  rw [real]
  exact TimeScale.beyond?_least patient short ahead

private theorem run_pollOnce_vain {v : World ε Number} {deadline : Float}
    (active : (v.sessions r.session).isActive = true)
    (answered : ∀ left, TimeScale.sub? (.real deadline) v.clock = some left →
      TimeScale.isOver left = false →
        ((Action.ask r.healing.service (r.pollWithin left)).run v).1 = .ok none)
    (reads : v.ReadsDouble) :
    ∃ u, (r.pollOnce (.real deadline)).run v = (.ok none, u) ∧ u.ReadsDouble := by
  obtain ⟨x, clock⟩ := reads
  have left : TimeScale.sub? (Number.real deadline) v.clock = some (.real (deadline - x)) := by
    rw [clock]
    rfl
  have until_ : (Action.timeUntil (.real deadline)).run v = (.ok (.real (deadline - x)), v) := by
    simp only [Action.timeUntil, Action.run_bind, Action.run_read, Action.andThen_ok,
      Action.difference, left]
    rfl
  rw [pollOnce, Action.run_bind_ok (run_ensureActive_active active), Action.run_bind_ok until_]
  cases spent : TimeScale.isOver (Number.real (deadline - x)) with
  | true => exact ⟨v, rfl, x, clock⟩
  | false =>
    have still := Action.stillReads_ask r.healing.service (r.pollWithin (.real (deadline - x))) v
      ⟨x, clock⟩
    exact ⟨_, Prod.ext (answered _ left spent) rfl, still⟩

private theorem run_poll_vain (timeout : TimeScale.Fits r.healing.settings.pollTimeout)
    (interval : TimeScale.Fits r.healing.settings.pollInterval)
    (patient : (TimeScale.le TimeScale.zero r.healing.settings.pollInterval = true ∧
      r.RestsInBounds w) ∨ r.healing.settings.pollMaxAttempts = 1)
    (reads : w.ReadsDouble) (vain : r.PollsInVain w) : ∃ u, r.poll.run w = (.ok none, u) := by
  obtain ⟨x, clock⟩ := reads
  obtain ⟨deadline, added⟩ := TimeScale.add_real timeout x
  rw [← clock] at added
  have summed : (Action.sum w.clock r.healing.settings.pollTimeout).run w =
      (.ok (.real deadline), w) := by
    rw [Action.sum, added]
    rfl
  have asks : ∀ v ∈ Wait.callsFrom (r.pollOnce (.real deadline)) Option.isSome
      r.healing.settings.pollInterval (.real deadline) true r.healing.settings.pollMaxAttempts w,
      v.ReadsDouble → ∃ answer u, (r.pollOnce (.real deadline)).run v = (.ok answer, u) ∧
        Option.isSome answer = false ∧ (1 < r.healing.settings.pollMaxAttempts → ∃ paused x,
          (Wait.pause r.healing.settings.pollInterval (.real deadline)).run u = (.ok paused, x) ∧
            x.ReadsDouble) := by
    intro v there reads
    obtain ⟨active, answered⟩ := vain (.real deadline) added v there
    obtain ⟨u, called, still⟩ := run_pollOnce_vain active answered reads
    refine ⟨none, u, called, rfl, fun more => ?_⟩
    obtain ⟨ahead, rests⟩ := patient.resolve_right (by omega)
    have bounded := rests (.real deadline) added v there
    rw [called] at bounded
    exact Wait.run_pause_double interval ahead bounded still
  obtain ⟨ending, answer, u, looped, gives, bad⟩ :=
    Wait.run_loop_vain r.healing.settings.pollMaxAttempts_pos asks ⟨x, clock⟩
  have calls : max 1 r.healing.settings.pollMaxAttempts = r.healing.settings.pollMaxAttempts :=
    Nat.max_eq_right r.healing.settings.pollMaxAttempts_pos
  have waited : (Wait.wait (r.pollOnce (.real deadline)) Option.isSome
      r.healing.settings.pollTimeout r.healing.settings.pollInterval
      (.atMost r.healing.settings.pollMaxAttempts)).run w = (.ok ending, u) := by
    rw [Wait.wait, Action.run_bind_ok (Action.run_read w World.clock), Action.run_bind_ok summed,
      Wait.Calls.count, calls]
    exact looped
  have none : answer = none := Option.not_isSome_iff_eq_none.1 (by simp [bad])
  refine ⟨u, ?_⟩
  rw [poll, Action.run_bind_ok (Action.run_read w World.clock), Action.run_bind_ok summed,
    Action.run_bind_ok waited, Action.run_pure, gives, none]
  rfl

end Double

section Course

variable [Outside ε τ] [TimeScale τ] {r : Run ε τ} {w w₁ w₂ w₃ v u : World ε τ} {first : Outcome}
  {script : String}

private theorem reaches_unhealed
    (looked : (r.look r.attempt.strategy r.attempt.value).run w = (.ok first, w₁))
    (failed : first.isFailure = true) (mayHeal : r.mayHeal = true)
    (given : r.request.run w₁ = (.ok (some script), w₂))
    (ran : (r.runScript script).run w₂ = (.ok (), w₃)) (polled : r.poll.run w₃ = (.ok none, v)) :
    ∃ p, r.Reaches w ⟨.close first, p⟩ v := by
  have missed : r.afterLook ⟨[.firstLookup], none, none⟩ first =
      ⟨.ask first, ⟨[.firstLookup, .attemptHeal], some first, none⟩⟩ := by
    simp [afterLook, failed, mayHeal, Progress.enter]
  have asks : r.Reaches w ⟨.ask first, ⟨[.firstLookup, .attemptHeal], some first, none⟩⟩ w₁ :=
    Reaches.move .refl (moves_iff.2 ⟨first, looked, missed.symm⟩)
  have runs := asks.move (moves_iff.2 ⟨some script, given, rfl⟩)
  have polls := runs.move (moves_iff.2 ⟨ran, rfl⟩)
  exact ⟨_, polls.move (moves_iff.2 ⟨none, polled, rfl⟩)⟩

/-- From the first lookup on, a run that polls in vain keeps what its requests, its script and its
audit entry keep. -/
private theorem keeps_unhealed {R : World ε τ → World ε τ → Prop} {warns : Prop}
    (hR : Frame R warns) (asks : ∀ inquiry, Keeps R (Action.ask r.healing.service inquiry))
    (scripts : Keeps R (Session.execute r.session script [] : Action ε τ Json))
    (sleeps : ∀ duration, Keeps R (Action.note (.slept duration) : Action ε τ Unit))
    (audits : AuditKeeps R) {p : Progress} {e : Ending}
    (given : r.request.run w₁ = (.ok (some script), w₂))
    (ran : (r.runScript script).run w₂ = (.ok (), w₃)) (polled : r.poll.run w₃ = (.ok none, v))
    (finished : (r.finish p first).run v = (.ok e, u)) : R w₁ u := by
  have early := r.keeps_request hR (asks _) w₁
  have middle := r.keeps_runScript hR scripts w₂
  have late := r.keeps_poll hR (r.keeps_pollOnce hR fun limit => asks _) sleeps w₃
  have last := r.keeps_finish hR audits p first v
  rw [given] at early
  rw [ran] at middle
  rw [polled] at late
  rw [finished] at last
  exact hR.trans early (hR.trans middle (hR.trans late last))

end Course

private theorem Runs.eq_of_ends [Outside ε τ] [TimeScale τ] {r : Run ε τ} {x : Point}
    {v u : World ε τ} {e : Ending} {z : Except Fault Ending × World ε τ} (runs : r.Runs x v z)
    (ends : (r.step x).run v = (.ok (.inr e), u)) : z = (.ok e, u) := by
  cases runs with
  | ends again =>
    cases ends.symm.trans again
    rfl
  | caught raised => cases ends.symm.trans raised
  | goes moves => cases ends.symm.trans moves.run_step

section Plain

variable [Outside ε τ] [TimeScale τ] {r : Run ε τ} {w w₁ w₂ w₃ : World ε τ} {first : Outcome}
  {script : String}

private theorem active_of_script (plain : r.look = Session.driverLookup r.session)
    (looked : (r.look r.attempt.strategy r.attempt.value).run w = (.ok first, w₁))
    (given : r.request.run w₁ = (.ok (some script), w₂))
    (ran : (r.runScript script).run w₂ = (.ok (), w₃)) :
    (w.sessions r.session).isActive = true := by
  have hR := sturdy_ages (ε := ε) (τ := τ)
  have first : World.Ages w ((Session.driverLookup r.session r.attempt.strategy
      r.attempt.value).run w).2 :=
    Session.keeps_driverLookup_of hR.refl (fun w _ => hR.keeps_call _ w) w
  have second := r.keeps_request hR.toFrame (hR.keeps_ask _ _) w₁
  obtain ⟨_, _, active, -⟩ := Action.of_run_bind_ok ran
  obtain ⟨rfl, there⟩ := ensureActive_ok active
  rw [← plain, looked] at first
  rw [given] at second
  exact (first _ (second _ there).1).1

private theorem trace_driverLookup {key : String} {strategy value : Json}
    (active : (w.sessions key).isActive = true)
    (looked : (Session.driverLookup key strategy value).run w = (.ok first, w₁)) :
    (∃ t, w₁.trace = w.trace ++ ⟨w.clock, .driver key (.find strategy value)⟩ :: t ∧
      ∀ entry ∈ t, ¬entry.event.IsFind) ∧ Logged False w.log w₁.log := by
  rw [Session.run_driverLookup_active active] at looked
  have after := congrArg Prod.snd looked
  subst after
  constructor
  · obtain ⟨t, grown, quits⟩ := Action.trace_perform (Session.findCommand key strategy value) w
    refine ⟨t, grown.trans (List.append_assoc _ _ _), fun entry there => ?_⟩
    obtain ⟨other, quit⟩ := Call.quit_of_passes (quits entry there)
    rw [quit]
    exact id
  · exact sturdy_hushed.keeps_call _ w

end Plain

section Rehearsed

open Rehearsal (Stage)

/-- A service that has a script for every failed lookup, and never a locator. -/
def scripting : Service Stage Number where
  call
    | .init _ _ _ _ => ⟨none, fun s => (⟨[], .ok {}⟩, s)⟩
    | .token _ _ _ => ⟨none, fun s => (⟨[], .ok ()⟩, s)⟩
    | .log _ => ⟨none, fun s => (⟨[], .ok none⟩, s)⟩
    | .heal _ => ⟨none, fun s => (⟨[], .ok (some "mark()")⟩, s)⟩
    | .poll _ _ _ _ => ⟨none, fun s => (⟨[], .ok none⟩, s)⟩
  shows_request inquiry _ shown := by cases inquiry with | _ => cases shown

def pollingData (interval : Float) : Json :=
  .obj [("service_url", .str "https://healing.test"), ("poll_max_attempts", .num (.int 2)),
    ("poll_interval_seconds", .num (.real interval))]

def pollingSettings (interval : Float) : Settings Number :=
  { Settings.servedAt "https://healing.test" with
    pollMaxAttempts := 2, pollInterval := .real interval, pollMaxAttempts_pos := Nat.zero_lt_two }

private theorem ofJson_pollingData (interval : Float) :
    Settings.ofJson (pollingData interval) = .ok (pollingSettings interval) := by
  rfl

def pollingRun (interval : Float) : Run Stage Number where
  healing :=
    { service := scripting
      auth := { isHealingEnabled := some true }
      settings := pollingSettings interval
      auditFile := none }
  options := { selfHeal := true }
  session := "s"
  attempt := ⟨.str "id", .str "gone", .str "s1"⟩
  report :=
    { strategy := "id", value := "gone", groupId := none, sessionId := .str "s1"
      region := (pollingSettings interval).regionHint }
  look := Session.driverLookup "s"

/-- A world in which the clock reads a double, and sleeps are those of a system. -/
def pollingWorld : World Stage Number :=
  { Occurrence.stagedWorld [] with clock := .real 0.0, boundsSleep := true }

def pollingLooked (interval : Float) : World Stage Number :=
  (((pollingRun interval).look (.str "id") (.str "gone")).run pollingWorld).2

def pollingGiven (interval : Float) : World Stage Number :=
  ((pollingRun interval).request.run (pollingLooked interval)).2

def pollingStart (interval : Float) : World Stage Number :=
  (((pollingRun interval).runScript "mark()").run (pollingGiven interval)).2

private theorem looked_polling (interval : Float) :
    ((pollingRun interval).look (.str "id") (.str "gone")).run pollingWorld =
      (.ok (.failed (.raised .noSuchElement "no such element: id=gone" .null)),
        pollingLooked interval) :=
  Prod.ext (by with_unfolding_all rfl) rfl

private theorem given_polling (interval : Float) :
    (pollingRun interval).request.run (pollingLooked interval) =
      (.ok (some "mark()"), pollingGiven interval) :=
  Prod.ext (by with_unfolding_all rfl) rfl

private theorem ran_polling (interval : Float) :
    ((pollingRun interval).runScript "mark()").run (pollingGiven interval) =
      (.ok (), pollingStart interval) :=
  Prod.ext (by with_unfolding_all rfl) rfl

private theorem reads_polling (interval : Float) : (pollingStart interval).ReadsDouble :=
  ⟨0.0, by with_unfolding_all rfl⟩

private theorem pollsInVain_polling (interval : Float) :
    (pollingRun interval).PollsInVain (pollingStart interval) := by
  have same : Frame (fun w v : World Stage Number => v.sessions = w.sessions) :=
    ⟨fun _ => rfl, fun first second => second.trans first, fun _ _ _ => rfl, fun _ _ => rfl⟩
  intro deadline _ v there
  have kept : v.sessions = (pollingStart interval).sessions :=
    Wait.rel_of_mem_callsFrom same
      ((pollingRun interval).keeps_pollOnce same (fun _ _ => rfl) deadline) (fun _ _ => rfl) there
  refine ⟨?_, fun left _ _ => rfl⟩
  rw [kept]
  with_unfolding_all rfl

end Rehearsed

end Healing.Run

end LocatorHealing
