import LocatorHealing.Proofs.Wait
import Mathlib.Algebra.BigOperators.Group.List.Basic
import Mathlib.Algebra.Order.Field.Basic
import Mathlib.Data.Rat.Floor

set_option autoImplicit false
set_option relaxedAutoImplicit false

/-!
What a wait comes to, and how far it goes. It answers with the first good answer, or else with the
last one; it calls no more often than it may, and never after its deadline but for the first call.
Where it sleeps between calls, the time that it is given bounds the number of calls alone.
-/

namespace LocatorHealing.Wait

variable {ε α : Type}

section Naps

variable {interval deadline : Rat}

def naps (interval deadline clock : Rat) : Nat :=
  ⌈(deadline - clock) / interval⌉₊

private theorem naps_le_naps (positive : 0 < interval) {now later : Rat} (forward : now ≤ later) :
    naps interval deadline later ≤ naps interval deadline now :=
  Nat.ceil_mono (by gcongr)

private theorem naps_rested_lt (positive : 0 < interval) {v : World ε Rat}
    (early : v.clock < deadline) :
    naps interval deadline (rested interval deadline v).clock < naps interval deadline v.clock := by
  have left : 0 < (deadline - v.clock) / interval := div_pos (sub_pos.2 early) positive
  have some : 1 ≤ naps interval deadline v.clock := Nat.one_le_ceil_iff.2 left
  have enough : (deadline - v.clock) / interval ≤ naps interval deadline v.clock := Nat.le_ceil _
  have one : (1 : Rat) ≤ naps interval deadline v.clock := by exact_mod_cast some
  refine Nat.lt_of_le_pred some (Nat.ceil_le.2 ?_)
  rw [Nat.pred_eq_sub_one, Nat.cast_sub some, Nat.cast_one, div_le_iff₀ positive]
  change deadline - (v.clock + min interval (deadline - v.clock)) ≤ _
  rcases le_total interval (deadline - v.clock) with whole | cut
  · rw [min_eq_left whole]
    rw [div_le_iff₀ positive] at enough
    linarith
  · rw [min_eq_right cut]
    have : 0 ≤ ((naps interval deadline v.clock : Rat) - 1) * interval :=
      mul_nonneg (sub_nonneg.2 one) positive.le
    linarith

end Naps

namespace Course

variable {ask : Action ε Rat α} {isGood : α → Bool} {interval deadline : Rat} {isBound : Bool}
  {calls : Nat} {w : World ε Rat} {called : List (World ε Rat)}
  {z : Except Fault (Ending α) × World ε Rat}

private theorem nil_or_cons
    (course : Course ask isGood interval deadline isBound calls w called z) :
    (calls = 0 ∧ called = []) ∨ ∃ rest, called = w :: rest := by
  cases course with
  | unwatched => exact .inl ⟨rfl, rfl⟩
  | raised | satisfied | outOfCalls | outOfTime | sleepless | again => exact .inr ⟨_, rfl⟩

private theorem clock_le_deadline
    (course : Course ask isGood interval deadline isBound calls w called z) :
    ∀ v ∈ called.tail, v.clock ≤ deadline := by
  induction course with
  | again asked bad early patient rest ih =>
    obtain ⟨-, rfl⟩ | ⟨others, rfl⟩ := rest.nil_or_cons
    · exact fun _ => nofun
    · intro v there
      rcases List.mem_cons.1 there with rfl | later
      · exact clock_rested_le
      · exact ih v later
  | unwatched | raised | satisfied | outOfCalls | outOfTime | sleepless => exact fun _ => nofun

section Interval

variable (positive : 0 < interval) (forward : ∀ v : World ε Rat, v.clock ≤ (ask.run v).2.clock)
include positive forward

private theorem naps_lt {v : World ε Rat} {answer : α} (asked : ask.run w = (.ok answer, v))
    (early : v.clock < deadline) :
    naps interval deadline (rested interval deadline v).clock < naps interval deadline w.clock := by
  have onwards : w.clock ≤ v.clock := by simpa only [asked] using forward w
  exact (naps_rested_lt positive early).trans_le (naps_le_naps positive onwards)

private theorem length_le_naps
    (course : Course ask isGood interval deadline isBound calls w called z) :
    called.length ≤ naps interval deadline w.clock + 1 := by
  induction course with
  | unwatched => exact Nat.zero_le _
  | again asked bad early patient rest ih =>
    exact Nat.succ_le_succ (ih.trans (naps_lt positive forward asked early))
  | raised | satisfied | outOfCalls | outOfTime | sleepless =>
    exact Nat.succ_le_succ (Nat.zero_le _)

private theorem le_naps_of_unfinished
    (course : Course ask isGood interval deadline isBound calls w called z)
    (unfinished : z.1 = .ok .unfinished) : calls ≤ naps interval deadline w.clock := by
  induction course with
  | unwatched => exact Nat.zero_le _
  | again asked bad early patient rest ih =>
    exact Nat.succ_le_of_lt ((ih unfinished).trans_lt (naps_lt positive forward asked early))
  | raised | satisfied | outOfCalls | outOfTime | sleepless => cases unfinished

end Interval

theorem raises (course : Course ask isGood interval deadline isBound calls w called z)
    {fault : Fault} (raised : z.1 = .error fault) :
    (∃ v ∈ called, (ask.run v).1 = .error fault) ∨ interval < 0 := by
  induction course with
  | raised asked =>
    cases raised
    exact .inl ⟨_, List.mem_cons_self, by rw [asked]⟩
  | sleepless asked bad early negative => exact .inr negative
  | again asked bad early patient rest ih =>
    refine (ih raised).imp_left ?_
    rintro ⟨v, there, failed⟩
    exact ⟨v, List.mem_cons_of_mem _ there, failed⟩
  | unwatched | satisfied | outOfCalls | outOfTime => cases raised

/-- A wait gives the answer to its last call, when all answers before were bad. It gives a bad one
only if the calls are used up or the deadline has come. -/
theorem answers (course : Course ask isGood interval deadline isBound calls w called z)
    {ending : Ending α} {answer : α} (gives : z.1 = .ok ending)
    (given : ending.answer? = some answer) :
    ∃ earlier v, called = earlier ++ [v] ∧ ask.run v = (.ok answer, z.2) ∧
      (∀ u ∈ earlier, ∃ bad, (ask.run u).1 = .ok bad ∧ isGood bad = false) ∧
      (isGood answer = false → isBound = true ∧ called.length = calls ∨ deadline ≤ z.2.clock) := by
  induction course with
  | unwatched =>
    cases gives
    cases given
  | raised | sleepless => cases gives
  | satisfied asked good =>
    cases gives
    cases given
    exact ⟨[], _, rfl, asked, fun _ => nofun, fun bad => absurd (good.symm.trans bad) nofun⟩
  | outOfCalls asked bad bound =>
    cases gives
    cases given
    exact ⟨[], _, rfl, asked, fun _ => nofun, fun _ => .inl ⟨bound, rfl⟩⟩
  | outOfTime asked bad late =>
    cases gives
    cases given
    exact ⟨[], _, rfl, asked, fun _ => nofun, fun _ => .inr late⟩
  | @again calls w v first called z asked bad early patient rest ih =>
    obtain ⟨earlier, u, rfl, last, badly, spent⟩ := ih gives
    refine ⟨w :: earlier, u, rfl, last, fun x there => ?_, fun poor => ?_⟩
    · rcases List.mem_cons.1 there with rfl | later
      · exact ⟨first, by rw [asked], bad⟩
      · exact badly x later
    · exact (spent poor).imp_left fun ⟨bound, all⟩ => ⟨bound, congrArg (· + 1) all⟩

end Course

section Watching

variable {ask : Action ε Rat α} {isGood : α → Bool} {interval deadline : Rat}

private theorem run_loop_bound {calls : Nat} (some : 0 < calls) (w : World ε Rat) :
    ((loop ask isGood interval deadline true calls).run w).1 ≠ .ok .unfinished := by
  induction calls generalizing w with
  | zero => cases some
  | succ calls ih =>
    rcases asked : ask.run w with ⟨fault | answer, v⟩
    · rw [loop, Action.run_bind_error asked]
      exact fun same => by cases same
    rw [run_loop_ok asked]
    split
    · exact fun same => by cases same
    split
    · exact fun same => by cases same
    case isFalse last =>
    split
    · exact fun same => by cases same
    split
    · exact fun same => by cases same
    · exact ih (Nat.pos_of_ne_zero fun none => last (by simp [none])) _

private theorem run_loop_watched {calls more : Nat} (further : calls ≤ more) (w : World ε Rat)
    (finished : ((loop ask isGood interval deadline false calls).run w).1 ≠ .ok .unfinished) :
    (loop ask isGood interval deadline false more).run w =
      (loop ask isGood interval deadline false calls).run w := by
  induction calls generalizing w more with
  | zero => exact absurd rfl finished
  | succ calls ih =>
    obtain ⟨more, rfl⟩ : ∃ n, more = n + 1 := ⟨more - 1, by omega⟩
    rcases asked : ask.run w with ⟨fault | answer, v⟩
    · rw [loop, loop, Action.run_bind_error asked, Action.run_bind_error asked]
    rw [run_loop_ok asked] at finished
    rw [run_loop_ok asked, run_loop_ok asked]
    simp only [Bool.false_and, Bool.false_eq_true, if_false] at finished ⊢
    split
    · rfl
    case isFalse bad =>
    rw [if_neg bad] at finished
    split
    · rfl
    case isFalse early =>
    rw [if_neg early] at finished
    split
    · rfl
    case isFalse patient =>
    rw [if_neg patient] at finished
    exact ih (Nat.le_of_succ_le_succ further) _ finished

end Watching

section Replies

/-- How a call goes: the time that it takes, and what it answers or raises. -/
structure Reply (α : Type) where
  cost : Rat
  outcome : Except Fault α
  cost_nonneg : 0 ≤ cost

/-- What is replied to a call from a world, in which the clock readings of the calls so far are kept
outside. -/
def replyAt (reply : List Rat → Reply α) (w : World (List Rat) Rat) : Reply α :=
  reply (w.outside ++ [w.clock])

def after (reply : List Rat → Reply α) (w : World (List Rat) Rat) : World (List Rat) Rat :=
  { w with clock := w.clock + (replyAt reply w).cost, outside := w.outside ++ [w.clock] }

/-- Call someone who replies by the clock readings of all calls so far, the present one last. -/
def calling (reply : List Rat → Reply α) : Action (List Rat) Rat α :=
  ⟨fun w => ((replyAt reply w).outcome, after reply w)⟩

/-- What is replied to calls at some clock readings, given the readings of the calls before. -/
def replies (reply : List Rat → Reply α) (before : List Rat) : List Rat → List (Reply α)
  | [] => []
  | reading :: later =>
    reply (before ++ [reading]) :: replies reply (before ++ [reading]) later

def Calls.within (limit : Option Int) (watched : Nat) : Calls :=
  match limit with
  | some n => .atMost n.toNat
  | none => .watched watched

variable {reply : List Rat → Reply α} {isGood : α → Bool} {interval deadline : Rat}
  {isBound : Bool} {calls : Nat} {w : World (List Rat) Rat} {called : List (World (List Rat) Rat)}
  {z : Except Fault (Ending α) × World (List Rat) Rat}

private theorem clock_le_calling (v : World (List Rat) Rat) :
    v.clock ≤ ((calling reply).run v).2.clock :=
  le_add_of_nonneg_right (reply _).cost_nonneg

namespace Course

private theorem outside_eq
    (course : Course (calling reply) isGood interval deadline isBound calls w called z) :
    z.2.outside = w.outside ++ called.map World.clock ∧
      replies reply w.outside (called.map World.clock) = called.map (replyAt reply) := by
  induction course with
  | unwatched w => exact ⟨(List.append_nil _).symm, rfl⟩
  | @again calls w v answer called z asked bad early patient rest ih =>
    obtain ⟨kept, replied⟩ := ih
    obtain rfl : after reply w = v := congrArg Prod.snd asked
    refine ⟨kept.trans (List.append_assoc _ _ _), ?_⟩
    exact congrArg (replyAt reply w :: ·) replied
  | @raised calls w v _ asked | @satisfied calls w v _ asked | @outOfCalls w v _ asked
  | @outOfTime calls w v _ asked | @sleepless calls w v _ asked =>
    obtain rfl : after reply w = v := congrArg Prod.snd asked
    exact ⟨rfl, rfl⟩

private theorem raises_reply
    (course : Course (calling reply) isGood interval deadline isBound calls w called z)
    {fault : Fault} (raised : z.1 = .error fault) :
    (∃ r ∈ called.map (replyAt reply), r.outcome = .error fault) ∨ interval < 0 := by
  refine (course.raises raised).imp_left ?_
  rintro ⟨v, there, failed⟩
  exact ⟨replyAt reply v, List.mem_map_of_mem there, failed⟩

private theorem answers_reply
    (course : Course (calling reply) isGood interval deadline isBound calls w called z)
    {ending : Ending α} {answer : α} (gives : z.1 = .ok ending)
    (given : ending.answer? = some answer) :
    ∃ earlier last, called.map (replyAt reply) = earlier ++ [last] ∧ last.outcome = .ok answer ∧
      (∀ r ∈ earlier, ∃ bad, r.outcome = .ok bad ∧ isGood bad = false) ∧
      (isGood answer = false → isBound = true ∧ called.length = calls ∨ deadline ≤ z.2.clock) := by
  obtain ⟨earlier, last, rfl, answered, badly, spent⟩ := course.answers gives given
  refine ⟨earlier.map (replyAt reply), replyAt reply last, List.map_append,
    congrArg Prod.fst answered,
    ?_, spent⟩
  rintro _ there
  obtain ⟨u, here, rfl⟩ := List.mem_map.1 there
  exact badly u here

/-- All time that passes goes into the calls and the sleeps, and the sleeps end by the deadline. -/
private theorem exists_sleeps
    (course : Course (calling reply) isGood interval deadline isBound calls w called z) :
    ∃ sleeps : List Rat,
      (∃ t, z.2.trace = w.trace ++ t ∧ t.map TraceEntry.event = sleeps.map Event.slept) ∧
      z.2.clock = w.clock + (called.map fun v => (replyAt reply v).cost).sum + sleeps.sum ∧
      sleeps.sum ≤ max 0 (deadline - w.clock) := by
  induction course with
  | unwatched w => exact ⟨[], ⟨[], (List.append_nil _).symm, rfl⟩, by simp, le_max_left _ _⟩
  | @again calls w v answer called z asked bad early patient rest ih =>
    obtain ⟨sleeps, ⟨t, grown, shown⟩, passed, few⟩ := ih
    obtain rfl : after reply w = v := congrArg Prod.snd asked
    let nap := min interval (deadline - (after reply w).clock)
    have slept : (rested interval deadline (after reply w)).clock =
        w.clock + (replyAt reply w).cost + nap := rfl
    refine ⟨nap :: sleeps, ⟨⟨(after reply w).clock, .slept nap⟩ :: t, ?_, ?_⟩, ?_, ?_⟩
    · exact grown.trans (List.append_assoc _ _ _)
    · exact congrArg (Event.slept nap :: ·) shown
    · rw [passed, slept, List.map_cons, List.sum_cons, List.sum_cons]
      ring
    · have cost : 0 ≤ (replyAt reply w).cost := (replyAt reply w).cost_nonneg
      rw [max_eq_right (sub_nonneg.2 clock_rested_le), slept] at few
      rw [List.sum_cons]
      exact le_max_of_le_right (by linarith)
  | @raised calls w v _ asked | @satisfied calls w v _ asked | @outOfCalls w v _ asked
  | @outOfTime calls w v _ asked | @sleepless calls w v _ asked =>
    obtain rfl : after reply w = v := congrArg Prod.snd asked
    exact ⟨[], ⟨[], (List.append_nil _).symm, rfl⟩, by simp [after], le_max_left _ _⟩

end Course

section Within

variable (reply) (isGood) (interval) (timeout : Rat) (limit : Option Int) (watched : Nat)

/-- The course of a wait, by the clock readings of its calls and by what was replied to them. -/
private theorem course_wait {start : World (List Rat) Rat} (fresh : start.outside = []) :
    let z := (wait (calling reply) isGood timeout interval (.within limit watched)).run start
    ∃ called, z.2.outside = called.map World.clock ∧
      replies reply [] z.2.outside = called.map (replyAt reply) ∧
      Course (calling reply) isGood interval (start.clock + timeout)
        (Calls.within limit watched).isBound (max 1 (Calls.within limit watched).count) start called
        z := by
  intro z
  have course : Course (calling reply) isGood interval (start.clock + timeout)
      (Calls.within limit watched).isBound (max 1 (Calls.within limit watched).count) start _ z :=
    course_loop _ _ _ _ _ _ _
  obtain ⟨kept, replied⟩ := course.outside_eq
  rw [fresh, List.nil_append] at kept
  rw [fresh] at replied
  exact ⟨_, kept, (congrArg (replies reply []) kept).trans replied, course⟩

/-- A wait is not over only if its calls are not bounded, and if its time has room for more of them
than are watched. -/
private theorem unfinished_within {start : World (List Rat) Rat}
    (unfinished : ((wait (calling reply) isGood timeout interval
      (.within limit watched)).run start).1 = .ok .unfinished) :
    limit = none ∧
      (0 < interval → max 1 watched ≤ naps interval (start.clock + timeout) start.clock) := by
  cases limit with
  | some n =>
    have calls : 0 < max 1 n.toNat := Nat.lt_of_lt_of_le Nat.one_pos (Nat.le_max_left _ _)
    exact absurd unfinished (run_loop_bound calls start)
  | none =>
    refine ⟨rfl, fun positive => ?_⟩
    have course : Course (calling reply) isGood interval (start.clock + timeout) false
        (max 1 watched) start _ ((wait (calling reply) isGood timeout interval
          (.within none watched)).run start) := course_loop _ _ _ _ _ _ _
    exact course.le_naps_of_unfinished positive clock_le_calling unfinished

private theorem run_wait_watched {start : World (List Rat) Rat} {more : Nat}
    (further : watched ≤ more)
    (finished : ((wait (calling reply) isGood timeout interval
      (.within limit watched)).run start).1 ≠ .ok .unfinished) :
    (wait (calling reply) isGood timeout interval (.within limit more)).run start =
      (wait (calling reply) isGood timeout interval (.within limit watched)).run start := by
  cases limit with
  | some n => rfl
  | none => exact run_loop_watched (max_le_max_left 1 further) start finished

end Within

end Replies

/-- A wait calls at once, and after its deadline no more; it makes no more calls than it may, and if
it sleeps between them, no more than its time has room for. All that it does besides is to sleep,
for no longer than it is given. It raises what a call raised, unless its interval is negative, and
otherwise gives the first good answer, or the last one when the calls or the time are used up. -/
theorem wait_limits (reply : List Rat → Reply α) (isGood : α → Bool) (timeout interval : Rat)
    (limit : Option Int) (watched : Nat) (w : World (List Rat) Rat) :
    let run (watched : Nat) := (wait (calling reply) isGood timeout interval
      (.within limit watched)).run { w with outside := [] }
    let z := run watched
    let deadline := w.clock + timeout
    let calls := z.2.outside
    let made := replies reply [] calls
    let room := max 0 ⌈timeout / interval⌉ + 1
    (∃ sleeps : List Rat,
      (∃ t, z.2.trace = w.trace ++ t ∧ t.map TraceEntry.event = sleeps.map Event.slept) ∧
      z.2.clock = w.clock + (made.map Reply.cost).sum + sleeps.sum ∧
      sleeps.sum ≤ max 0 timeout) ∧
    calls.head? = some w.clock ∧
    (∀ call ∈ calls.tail, call ≤ deadline) ∧
    (∀ n, limit = some n → (calls.length : Int) ≤ max 1 n) ∧
    (0 < interval → (calls.length : Int) ≤ room) ∧
    (limit.isSome = true ∨ 0 < interval ∧ room ≤ watched → z.1 ≠ .ok .unfinished) ∧
    (z.1 ≠ .ok .unfinished → ∀ more ≥ watched, run more = z) ∧
    (∀ fault, z.1 = .error fault → (∃ r ∈ made, r.outcome = .error fault) ∨ interval < 0) ∧
    ∀ ending answer, z.1 = .ok ending → ending.answer? = some answer →
      ∃ earlier last, made = earlier ++ [last] ∧ last.outcome = .ok answer ∧
        (∀ r ∈ earlier, ∃ bad, r.outcome = .ok bad ∧ isGood bad = false) ∧
        (isGood answer = false →
          (∃ n, limit = some n ∧ n ≤ calls.length) ∨ deadline ≤ z.2.clock) := by
  intro run z deadline calls made room
  let start : World (List Rat) Rat := { w with outside := [] }
  have fresh : start.outside = [] := rfl
  have time : deadline - start.clock = timeout := add_sub_cancel_left w.clock timeout
  have count : naps interval deadline start.clock = max 0 ⌈timeout / interval⌉ := by
    rw [naps, time, ← Int.ceil_toNat, Int.ofNat_toNat, max_comm]
  obtain ⟨called, read, asked, course⟩ : ∃ called,
      calls = called.map World.clock ∧ made = called.map (replyAt reply) ∧
      Course (calling reply) isGood interval deadline (Calls.within limit watched).isBound
        (max 1 (Calls.within limit watched).count) start called z :=
    course_wait reply isGood interval timeout limit watched fresh
  have few : calls.length = called.length := (congrArg List.length read).trans (List.length_map _)
  refine ⟨?_, ?_, ?_, ?_, ?_, ?_, ?_, ?_, ?_⟩
  · obtain ⟨sleeps, shown, passed, short⟩ := course.exists_sleeps
    refine ⟨sleeps, shown, ?_, time ▸ short⟩
    rw [asked, List.map_map]
    exact passed
  · obtain ⟨none, -⟩ | ⟨rest, rfl⟩ := course.nil_or_cons
    · omega
    · rw [read]
      rfl
  · rw [read, ← List.map_tail]
    rintro _ there
    obtain ⟨v, later, rfl⟩ := List.mem_map.1 there
    exact course.clock_le_deadline v later
  · rintro n rfl
    have most : called.length ≤ max 1 n.toNat := course.length_le
    omega
  · intro positive
    have most := course.length_le_naps positive clock_le_calling
    omega
  · intro limited unfinished
    obtain ⟨rfl, most⟩ := unfinished_within reply isGood interval timeout limit watched unfinished
    obtain bounded | ⟨positive, watches⟩ := limited
    · cases bounded
    · have most : max 1 watched ≤ naps interval deadline start.clock := most positive
      omega
  · intro finished more further
    exact run_wait_watched reply isGood interval timeout limit watched further finished
  · intro fault raised
    rw [asked]
    exact course.raises_reply raised
  · intro ending answer gives given
    obtain ⟨earlier, last, replied, answered, badly, spent⟩ := course.answers_reply gives given
    refine ⟨earlier, last, asked.trans replied, answered, badly, fun bad => (spent bad).imp_left ?_⟩
    rintro ⟨bounded, all⟩
    cases limit with
    | none => cases bounded
    | some n =>
      have all : called.length = max 1 n.toNat := all
      exact ⟨n, rfl, by omega⟩

/-- At first there are no sessions and no files, and the clock stands at zero. -/
def idleWorld : World (List Rat) Rat where
  clock := 0
  timestamp := ""
  level := .info
  log := []
  trace := []
  sessions _ := { sessionId := .null, capabilities := [] }
  files := ⟨[], []⟩
  environment := []
  launched := none
  warned := []
  encoded := []
  outside := []

/-- The third call finds something; the first two take a quarter of a second each to find nothing.
-/
def late (readings : List Rat) : Reply (Option Rat) :=
  if readings.length < 3 then ⟨1 / 4, .ok none, by norm_num⟩
  else ⟨0, .ok readings.getLast?, le_rfl⟩

/-- The second sleep is cut at the deadline, where a last call is made. -/
theorem wait_limits_clipped :
    let z := (wait (calling late) Option.isSome (3 / 2) (3 / 4) (.within none 3)).run idleWorld
    (∃ ending, z.1 = .ok ending ∧ ending.answer? = some (some (3 / 2))) ∧
    z.2.outside = [0, 1, 3 / 2] ∧
    (z.2.outside.length : Int) ≤ max 0 ⌈(3 / 2 : Rat) / (3 / 4)⌉ + 1 ∧
    (∀ call ∈ z.2.outside.tail, call ≤ 3 / 2) ∧
    z.1 ≠ .ok .unfinished ∧
    ∃ earlier last, replies late [] [0, 1, 3 / 2] = earlier ++ [last] ∧
      last.outcome = .ok (some (3 / 2)) ∧
      ∀ r ∈ earlier, ∃ bad, r.outcome = .ok bad ∧ bad.isSome = false := by
  intro z
  obtain ⟨-, -, early, -, few, finished, -, -, gives⟩ :=
    wait_limits late Option.isSome (3 / 2) (3 / 4) none 3 idleWorld
  have made : z.2.outside = [0, 1, 3 / 2] := by decide +kernel
  have answered : ∃ ending, z.1 = .ok ending ∧ ending.answer? = some (some (3 / 2)) := by
    have seen : z.1.toOption.bind Ending.answer? = some (some (3 / 2)) := by decide +kernel
    cases ended : z.1 with
    | error fault =>
      rw [ended] at seen
      cases seen
    | ok ending =>
      rw [ended] at seen
      exact ⟨ending, rfl, seen⟩
  have positive : (0 : Rat) < 3 / 4 := by norm_num
  have room : max 0 ⌈(3 / 2 : Rat) / (3 / 4)⌉ + 1 ≤ ((3 : Nat) : Int) := by norm_num
  obtain ⟨ending, ended, given⟩ := answered
  obtain ⟨earlier, last, replied, ends, badly, -⟩ := gives _ _ ended given
  refine ⟨⟨ending, ended, given⟩, made, few positive, fun call there => ?_,
    finished (.inr ⟨positive, room⟩), earlier, last, ?_, ends, badly⟩
  · exact (early call there).trans (by norm_num [idleWorld])
  · rw [← replied]
    exact congrArg (replies late []) made.symm

end LocatorHealing.Wait
