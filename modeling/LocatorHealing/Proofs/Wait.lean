import LocatorHealing.TimeScale.Exact
import LocatorHealing.Wait
import Mathlib.Algebra.Order.Ring.Rat
import Mathlib.Tactic.Linarith

set_option autoImplicit false
set_option relaxedAutoImplicit false

/-!
The course of a wait in exact time: in which worlds it calls, what comes between two calls, and how
it ends. What holds of every wait is proved along its course.
-/

namespace LocatorHealing

variable {ε α : Type}

namespace TimeScale

@[simp] theorem least_rat (a b : Rat) : least a b = min a b := by
  simp only [least, lt, decide_eq_true_eq]
  split
  case isTrue less => exact (min_eq_right less.le).symm
  case isFalse more => exact (min_eq_left (not_lt.1 more)).symm

theorem isOver_sub_rat (deadline clock : Rat) :
    isOver (deadline - clock) = true ↔ deadline ≤ clock := by
  rw [isOver_rat, sub_nonpos]

end TimeScale

namespace Action

variable (w : World ε Rat)

@[simp] theorem run_sum_rat (a b : Rat) : (sum a b : Action ε Rat Rat).run w = (.ok (a + b), w) :=
  rfl

@[simp] theorem run_timeUntil_rat (deadline : Rat) :
    (timeUntil deadline).run w = (.ok (deadline - w.clock), w) := rfl

end Action

namespace Wait

/-- The world after the sleep between two calls, which is cut at the deadline. -/
def rested (interval deadline : Rat) (w : World ε Rat) : World ε Rat :=
  { w with
    clock := w.clock + min interval (deadline - w.clock)
    trace := w.trace ++ [⟨w.clock, .slept (min interval (deadline - w.clock))⟩] }

section Sleep

variable {interval deadline : Rat} {w : World ε Rat}

private theorem run_sleep_rested (patient : 0 ≤ interval) (early : w.clock < deadline) :
    (Action.sleep (min interval (deadline - w.clock))).run w =
      (.ok (), rested interval deadline w) := by
  have ahead : 0 ≤ min interval (deadline - w.clock) := le_min patient (sub_pos.2 early).le
  have possible : TimeScale.isNegative (min interval (deadline - w.clock)) = false := by
    simpa only [Bool.eq_false_iff, ne_eq, TimeScale.isNegative_rat, not_lt] using ahead
  simp only [Action.sleep, Action.run_bind, Action.run_read, Action.andThen_ok,
    TimeScale.sleepFault?_rat, possible]
  rfl

private theorem run_sleep_negative (negative : interval < 0) :
    (Action.sleep (min interval (deadline - w.clock))).run w = (.error .negativeSleep, w) := by
  have impossible : TimeScale.isNegative (min interval (deadline - w.clock)) = true :=
    TimeScale.isNegative_rat _ |>.2 (min_lt_of_left_lt negative)
  simp only [Action.sleep, Action.run_bind, Action.run_read, Action.andThen_ok,
    TimeScale.sleepFault?_rat, impossible]
  rfl

private theorem le_clock_rested (patient : 0 ≤ interval) (early : w.clock < deadline) :
    w.clock ≤ (rested interval deadline w).clock :=
  le_add_of_nonneg_right (le_min patient (sub_pos.2 early).le)

theorem clock_rested_le : (rested interval deadline w).clock ≤ deadline := by
  have cut : min interval (deadline - w.clock) ≤ deadline - w.clock := min_le_right _ _
  change w.clock + min interval (deadline - w.clock) ≤ deadline
  linarith

end Sleep

section Course

variable (ask : Action ε Rat α) (isGood : α → Bool) (interval deadline : Rat) (isBound : Bool)

def callWorlds : Nat → World ε Rat → List (World ε Rat)
  | 0, _ => []
  | calls + 1, w =>
    w ::
      match ask.run w with
      | (.ok answer, v) =>
        if isGood answer || (isBound && calls = 0) || deadline ≤ v.clock || interval < 0 then []
        else callWorlds calls (rested interval deadline v)
      | (.error _, _) => []

/-- How a wait with so many calls left may go: the worlds in which it calls, and how it ends. -/
inductive Course : Nat → World ε Rat → List (World ε Rat) →
    Except Fault (Ending α) × World ε Rat → Prop where
  | unwatched (w : World ε Rat) : Course 0 w [] (.ok .unfinished, w)
  | raised {calls : Nat} {w v : World ε Rat} {fault : Fault}
      (asked : ask.run w = (.error fault, v)) : Course (calls + 1) w [w] (.error fault, v)
  | satisfied {calls : Nat} {w v : World ε Rat} {answer : α}
      (asked : ask.run w = (.ok answer, v)) (good : isGood answer = true) :
      Course (calls + 1) w [w] (.ok (.satisfied answer), v)
  | outOfCalls {w v : World ε Rat} {answer : α} (asked : ask.run w = (.ok answer, v))
      (bad : isGood answer = false) (bound : isBound = true) :
      Course 1 w [w] (.ok (.outOfCalls answer), v)
  | outOfTime {calls : Nat} {w v : World ε Rat} {answer : α}
      (asked : ask.run w = (.ok answer, v)) (bad : isGood answer = false)
      (late : deadline ≤ v.clock) : Course (calls + 1) w [w] (.ok (.outOfTime answer), v)
  | sleepless {calls : Nat} {w v : World ε Rat} {answer : α}
      (asked : ask.run w = (.ok answer, v)) (bad : isGood answer = false)
      (early : v.clock < deadline) (negative : interval < 0) :
      Course (calls + 1) w [w] (.error .negativeSleep, v)
  | again {calls : Nat} {w v : World ε Rat} {answer : α} {called : List (World ε Rat)}
      {z : Except Fault (Ending α) × World ε Rat} (asked : ask.run w = (.ok answer, v))
      (bad : isGood answer = false) (early : v.clock < deadline) (patient : 0 ≤ interval)
      (rest : Course calls (rested interval deadline v) called z) :
      Course (calls + 1) w (w :: called) z

variable {ask isGood interval deadline isBound} in
theorem run_loop_ok {w v : World ε Rat} {answer : α} (asked : ask.run w = (.ok answer, v))
    (calls : Nat) :
    (loop ask isGood interval deadline isBound (calls + 1)).run w =
      if isGood answer then (.ok (.satisfied answer), v)
      else if isBound && calls = 0 then (.ok (.outOfCalls answer), v)
      else if deadline ≤ v.clock then (.ok (.outOfTime answer), v)
      else if interval < 0 then (.error .negativeSleep, v)
      else (loop ask isGood interval deadline isBound calls).run (rested interval deadline v) := by
  rw [loop, Action.run_bind_ok asked]
  split
  · rfl
  split
  · rfl
  rw [Action.run_bind, Action.run_timeUntil_rat, Action.andThen_ok]
  by_cases late : deadline ≤ v.clock
  · rw [if_pos late, if_pos ((TimeScale.isOver_sub_rat _ _).2 late)]
    rfl
  have early : v.clock < deadline := not_le.1 late
  rw [if_neg late, if_neg (mt (TimeScale.isOver_sub_rat _ _).1 late), TimeScale.least_rat]
  by_cases negative : interval < 0
  · rw [if_pos negative, Action.run_bind_error (run_sleep_negative negative)]
  · rw [if_neg negative, Action.run_bind_ok (run_sleep_rested (not_lt.1 negative) early)]

theorem course_loop (calls : Nat) (w : World ε Rat) :
    Course ask isGood interval deadline isBound calls w
      (callWorlds ask isGood interval deadline isBound calls w)
      ((loop ask isGood interval deadline isBound calls).run w) := by
  induction calls generalizing w with
  | zero => exact .unwatched w
  | succ calls ih =>
    rcases asked : ask.run w with ⟨fault | answer, v⟩
    · rw [loop, Action.run_bind_error asked]
      simp only [callWorlds, asked]
      exact .raised asked
    rw [run_loop_ok asked]
    simp only [callWorlds, asked]
    by_cases good : isGood answer = true
    · simpa [good] using Course.satisfied asked good
    have bad : isGood answer = false := Bool.eq_false_iff.2 good
    by_cases last : isBound = true ∧ calls = 0
    · obtain ⟨bound, rfl⟩ := last
      simpa [bad, bound] using Course.outOfCalls asked bad bound
    by_cases late : deadline ≤ v.clock
    · simpa [bad, last, late] using Course.outOfTime asked bad late
    by_cases negative : interval < 0
    · simpa [bad, last, late, negative] using
        Course.sleepless asked bad (not_le.1 late) negative
    · simpa [bad, last, late, negative] using
        Course.again asked bad (not_le.1 late) (not_lt.1 negative) (ih _)

end Course

namespace Course

variable {ask : Action ε Rat α} {isGood : α → Bool} {interval deadline : Rat} {isBound : Bool}
  {calls : Nat} {w : World ε Rat} {called : List (World ε Rat)}
  {z : Except Fault (Ending α) × World ε Rat}

theorem length_le (course : Course ask isGood interval deadline isBound calls w called z) :
    called.length ≤ calls := by
  induction course with
  | unwatched w => exact Nat.le_refl 0
  | again asked bad early patient rest ih => exact Nat.succ_le_succ ih
  | raised | satisfied | outOfCalls | outOfTime | sleepless =>
    exact Nat.succ_le_succ (Nat.zero_le _)

theorem clock_le (course : Course ask isGood interval deadline isBound calls w called z)
    (bounded : ∀ v ∈ called, (ask.run v).2.clock ≤ max v.clock deadline) :
    z.2.clock ≤ max w.clock deadline := by
  induction course with
  | unwatched w => exact le_max_left _ _
  | @again calls w v answer called z asked bad early patient rest ih =>
    have ends := ih fun u there => bounded u (List.mem_cons_of_mem w there)
    -- the sleep is cut at the deadline, so that the rest of the wait starts before it
    rw [max_eq_right clock_rested_le] at ends
    exact ends.trans (le_max_right _ _)
  | @raised calls w v _ asked | @satisfied calls w v _ asked | @outOfCalls w v _ asked
  | @outOfTime calls w v _ asked | @sleepless calls w v _ asked =>
    have last := bounded w List.mem_cons_self
    rw [asked] at last
    exact last

private theorem clock_le_of_mem
    (course : Course ask isGood interval deadline isBound calls w called z)
    (forward : ∀ v ∈ called, v.clock ≤ (ask.run v).2.clock) {u : World ε Rat} (there : u ∈ called) :
    w.clock ≤ u.clock := by
  induction course with
  | unwatched w => cases there
  | @again calls w v answer called z asked bad early patient rest ih =>
    rcases List.mem_cons.1 there with rfl | later
    · exact le_refl _
    have onwards : w.clock ≤ v.clock := by
      have first := forward w List.mem_cons_self
      rw [asked] at first
      exact first
    calc
      w.clock ≤ v.clock := onwards
      _ ≤ (rested interval deadline v).clock := le_clock_rested patient early
      _ ≤ u.clock := ih (fun x mem => forward x (List.mem_cons_of_mem w mem)) later
  | @raised calls w | @satisfied calls w | @outOfCalls w | @outOfTime calls w
  | @sleepless calls w =>
    rw [List.mem_singleton.1 there]

theorem clock_sorted (course : Course ask isGood interval deadline isBound calls w called z)
    (forward : ∀ v ∈ called, v.clock ≤ (ask.run v).2.clock) :
    called.Pairwise fun u v => u.clock ≤ v.clock := by
  induction course with
  | unwatched w => exact .nil
  | @again calls w v answer called z asked bad early patient rest ih =>
    have whole : Course ask isGood interval deadline isBound (calls + 1) w (w :: called) z :=
      .again asked bad early patient rest
    refine .cons (fun u later => ?_) (ih fun u later => forward u (List.mem_cons_of_mem w later))
    exact whole.clock_le_of_mem forward (List.mem_cons_of_mem w later)
  | raised | satisfied | outOfCalls | outOfTime | sleepless => exact List.pairwise_singleton _ _

theorem trace_eq {β : Type} (course : Course ask isGood interval deadline isBound calls w called z)
    (shown : TraceEntry Rat → Option β) (shows : World ε Rat → Bool)
    (entries : World ε Rat → List β)
    (sleeps : ∀ clock duration, shown ⟨clock, .slept duration⟩ = none)
    (grows : ∀ v ∈ called, ∃ t, (ask.run v).2.trace = v.trace ++ t ∧
      t.filterMap shown = ([v].filter shows).flatMap entries) :
    ∃ t, z.2.trace = w.trace ++ t ∧
      t.filterMap shown = (called.filter shows).flatMap entries := by
  induction course with
  | unwatched w => exact ⟨[], (List.append_nil _).symm, rfl⟩
  | @again calls w v answer called z asked bad early patient rest ih =>
    obtain ⟨s, first, seen⟩ := grows w List.mem_cons_self
    obtain ⟨t, grown, later⟩ := ih fun u there => grows u (List.mem_cons_of_mem w there)
    rw [asked] at first
    refine ⟨s ++ ⟨v.clock, .slept (min interval (deadline - v.clock))⟩ :: t, ?_, ?_⟩
    · rw [grown]
      change (v.trace ++ _) ++ t = _
      rw [first, List.append_assoc, List.append_assoc, List.singleton_append]
    · rw [List.filterMap_append, List.filterMap_cons_none (sleeps _ _), seen, later,
        ← List.flatMap_append, ← List.filter_append, List.singleton_append]
  | @raised calls w v _ asked | @satisfied calls w v _ asked | @outOfCalls w v _ asked
  | @outOfTime calls w v _ asked | @sleepless calls w v _ asked =>
    have last := grows w List.mem_cons_self
    rw [asked] at last
    exact last

end Course

end Wait

end LocatorHealing
