import LocatorHealing.Proofs.Action.Frame
import LocatorHealing.Proofs.Settings.Fields

set_option autoImplicit false
set_option relaxedAutoImplicit false

/-!
Waiting by a clock that reads doubles. Times are compared as doubles are; whatever settings allow
for times can be added to such a clock, and whatever is left until a deadline can be slept, unless
the interval of a wait is below zero or the sleep is beyond the bounds of every system.
-/

namespace LocatorHealing

open LocatorHealing.Action (Keeps)

namespace Binary

private theorem lt_iff {x y : Float} : x < y ↔ (x.toModel.unpack).lt y.toModel.unpack = true :=
  ⟨of_decide_eq_true, decide_eq_true⟩

private theorem le_iff {x y : Float} : x ≤ y ↔ (x.toModel.unpack).le y.toModel.unpack = true :=
  ⟨of_decide_eq_true, decide_eq_true⟩

private theorem le_of_lt {x y : Float} (less : x < y) : x ≤ y := by
  rw [lt_iff, Float.Model.UnpackedFloat.lt, beq_iff_eq] at less
  rw [le_iff, Float.Model.UnpackedFloat.le, less]
  rfl

private theorem unpack_zero : (0.0 : Float).toModel.unpack = .zero .positive := rfl

private theorem not_lt_zero {x : Float} (atLeast : 0.0 ≤ x) : ¬x < 0.0 := by
  rw [le_iff, unpack_zero] at atLeast
  rw [lt_iff, unpack_zero]
  generalize x.toModel.unpack = y at atLeast ⊢
  cases y with
  | notANumber => nofun
  | zero sign => nofun
  | infinity sign =>
    cases sign with
    | positive => nofun
    | negative => cases atLeast
  | finite sign mantissa exponent positive =>
    cases sign with
    | positive => nofun
    | negative => cases atLeast

open Float.Model (UnpackedFloat)

private theorem lexicographic_trans {e₁ e₂ e₃ : Int} {m₁ m₂ m₃ : Nat}
    (xy : (compare e₁ e₂).then (compare m₁ m₂) = .lt)
    (yz : (compare e₂ e₃).then (compare m₂ m₃) = .lt) :
    (compare e₁ e₃).then (compare m₁ m₃) = .lt := by
  simp only [Ordering.then_eq_lt, Int.compare_eq_lt, Nat.compare_eq_lt, Int.compare_eq_eq] at *
  omega

private theorem positive_of_lt {x y : UnpackedFloat} (above : x.le (.zero .positive) = false)
    (less : x.lt y = true) :
    (∃ m e p, x = .finite .positive m e p) ∧
      (y = .infinity .positive ∨ ∃ m e p, y = .finite .positive m e p) := by
  cases x with
  | notANumber => cases less
  | zero sign => cases above
  | infinity sign =>
    cases sign with
    | negative => cases above
    | positive =>
      cases y with
      | infinity sign => cases sign with | _ => cases less
      | _ => cases less
  | finite sign m e p =>
    cases sign with
    | negative => cases above
    | positive =>
      refine ⟨⟨m, e, p, rfl⟩, ?_⟩
      cases y with
      | notANumber => cases less
      | zero sign => cases less
      | infinity sign =>
        cases sign with
        | positive => exact .inl rfl
        | negative => cases less
      | finite sign m e p =>
        cases sign with
        | positive => exact .inr ⟨m, e, p, rfl⟩
        | negative => cases less

private theorem between_of_lt {x y z : Float} (above : ¬x ≤ 0.0) (xy : x < y) (yz : y < z) :
    0.0 ≤ x ∧ x < z := by
  rw [le_iff, unpack_zero, Bool.not_eq_true] at above
  rw [lt_iff] at xy yz
  rw [le_iff, lt_iff, unpack_zero]
  generalize x.toModel.unpack = x at *
  generalize y.toModel.unpack = y at *
  generalize z.toModel.unpack = z at *
  obtain ⟨⟨m, e, p, rfl⟩, rfl | ⟨m', e', p', rfl⟩⟩ := positive_of_lt above xy
  · obtain ⟨⟨_, _, _, none⟩, -⟩ := positive_of_lt rfl yz
    cases none
  · obtain ⟨-, rfl | ⟨m'', e'', p'', rfl⟩⟩ := positive_of_lt rfl yz
    · exact ⟨rfl, rfl⟩
    · rw [UnpackedFloat.lt, beq_iff_eq] at *
      exact ⟨rfl, congrArg some (lexicographic_trans (Option.some.inj xy) (Option.some.inj yz))⟩

end Binary

namespace TimeScale

/-- A time as the checks of settings leave it: as a double, or as a whole number that fits in one.
-/
def Fits (t : Number) : Prop :=
  t.toFloat?.isSome = true

private theorem fits_real (x : Float) : Fits (.real x) := rfl

theorem add_real {t : Number} (fits : Fits t) (x : Float) :
    ∃ y, add? (Number.real x) t = some (.real y) := by
  cases t with
  | real y => exact ⟨_, rfl⟩
  | int n =>
    obtain ⟨y, held⟩ := Option.isSome_iff_exists.1 fits
    refine ⟨x + y, ?_⟩
    change Number.add (.real x) (.int n) = _
    unfold Number.add Number.lift₂
    rw [held]
    rfl

theorem add_eq_none {t : Number} (large : ¬Fits t) (x : Float) : add? (Number.real x) t = none := by
  cases t with
  | real y => exact absurd (fits_real y) large
  | int n =>
    change Number.add (.real x) (.int n) = _
    unfold Number.add Number.lift₂
    rw [Option.not_isSome_iff_eq_none.1 large]
    rfl

private theorem isNegative_eq_false {t : Number} (patient : le zero t = true) :
    isNegative t = false := by
  cases t with
  | real x => exact decide_eq_false (Binary.not_lt_zero (of_decide_eq_true patient))
  | int n =>
    change (Binary.compareInt? n 0.0 == some .lt) = false
    change (Binary.compareInt? n 0.0 == some .gt || Binary.compareInt? n 0.0 == some .eq) = true
      at patient
    rcases Bool.or_eq_true_iff.1 patient with more | same
    · rw [beq_iff_eq.1 more]
      rfl
    · rw [beq_iff_eq.1 same]
      rfl

private theorem isNegative_of_isOver {t : Number} (left : isOver t = false) :
    isNegative t = false := by
  cases t with
  | real x =>
    refine decide_eq_false fun below => ?_
    exact of_decide_eq_false left (Binary.le_of_lt below)
  | int n =>
    change (Binary.compareInt? n 0.0 == some .lt || Binary.compareInt? n 0.0 == some .eq) = false
      at left
    exact (Bool.or_eq_false_iff.1 left).1

private theorem beyond?_of_lt {x : Float} (patient : 0.0 ≤ x) (short : x < sleepBound) :
    beyond? (Number.real x) = none := by
  have isNumber : x.isNaN = false := by
    rw [Binary.le_iff] at patient
    unfold Float.isNaN Float.Model.isNaN
    generalize x.toModel.unpack = y at patient ⊢
    cases y with
    | notANumber => cases patient
    | _ => rfl
  have least : -sleepBound ≤ x := by
    obtain ⟨m, e, p, bound⟩ :
        ∃ m e p, (-sleepBound).toModel.unpack = .finite .negative m e p := ⟨_, _, _, rfl⟩
    rw [Binary.le_iff] at patient ⊢
    rw [bound]
    generalize x.toModel.unpack = y at patient ⊢
    cases y with
    | notANumber => cases patient
    | zero sign => rfl
    | infinity sign =>
      cases sign with
      | positive => rfl
      | negative => cases patient
    | finite sign m e p =>
      cases sign with
      | positive => rfl
      | negative => cases patient
  change numberBeyond? (.real x) = none
  rw [numberBeyond?, if_neg (Bool.eq_false_iff.1 isNumber), if_pos ⟨least, short⟩]

theorem beyond?_least {x left : Float} (patient : 0.0 ≤ x) (short : x < sleepBound)
    (ahead : isOver (Number.real left) = false) :
    beyond? (least (Number.real x) (.real left)) = none := by
  unfold least
  split
  · rename_i less
    obtain ⟨atLeast, below⟩ :=
      Binary.between_of_lt (of_decide_eq_false ahead) (of_decide_eq_true less) short
    exact beyond?_of_lt atLeast below
  · exact beyond?_of_lt patient short

private theorem isNegative_least {interval remaining : Number} (patient : le zero interval = true)
    (left : isOver remaining = false) : isNegative (least interval remaining) = false := by
  unfold least
  split
  · exact isNegative_of_isOver left
  · exact isNegative_eq_false patient

end TimeScale

namespace World

variable {ε : Type}

def ReadsDouble (w : World ε Number) : Prop :=
  ∃ x, w.clock = .real x

/-- If the clock read a double, it still does. -/
def StillReads (w v : World ε Number) : Prop :=
  w.ReadsDouble → v.ReadsDouble

end World

namespace Action

variable {ε α β : Type} {w : World ε Number}

private theorem run_sum_double {t : Number} (fits : TimeScale.Fits t) (reads : w.ReadsDouble) :
    ∃ y, (sum w.clock t).run w = (.ok (.real y), w) := by
  obtain ⟨x, clock⟩ := reads
  obtain ⟨y, added⟩ := TimeScale.add_real fits x
  refine ⟨y, ?_⟩
  rw [clock, sum, added]
  rfl

theorem run_timeUntil_double (reads : w.ReadsDouble) (deadline : Float) :
    ∃ left, TimeScale.sub? (Number.real deadline) w.clock = some (.real left) ∧
      (timeUntil (.real deadline)).run w = (.ok (.real left), w) := by
  obtain ⟨x, clock⟩ := reads
  refine ⟨deadline - x, by rw [clock]; rfl, ?_⟩
  simp only [timeUntil, run_bind, run_read, andThen_ok, clock]
  rfl

private theorem run_elapse_double {t : Number} (fits : TimeScale.Fits t) (reads : w.ReadsDouble) :
    ∃ v, (elapse t).run w = (.ok (), v) ∧ v.ReadsDouble := by
  obtain ⟨y, added⟩ := run_sum_double fits reads
  refine ⟨{ w with clock := .real y }, ?_, y, rfl⟩
  rw [elapse, run_bind_ok (run_read w World.clock), run_bind_ok added]
  rfl

private theorem run_sleep_double {t : Number} (fits : TimeScale.Fits t)
    (possible : TimeScale.isNegative t = false) (bounded : TimeScale.beyond? t = none)
    (reads : w.ReadsDouble) :
    ∃ v, (sleep t).run w = (.ok (), v) ∧ v.ReadsDouble := by
  have noted :
      ({ w with trace := w.trace ++ [⟨w.clock, .slept t⟩] } : World ε Number).ReadsDouble :=
    reads
  obtain ⟨v, elapsed, still⟩ := run_elapse_double fits noted
  have allowed : TimeScale.sleepFault? w.boundsSleep t = none := by
    rw [TimeScale.sleepFault?, bounded, possible, ite_self]
    rfl
  refine ⟨v, ?_, still⟩
  rw [sleep, run_bind_ok (run_read w World.boundsSleep), allowed]
  exact (run_bind_ok rfl).trans elapsed

section Still

open World (StillReads)

theorem stillReads_bind {x : Action ε Number α} {f : α → Action ε Number β}
    (first : Keeps StillReads x) (rest : ∀ a, Keeps StillReads (f a)) :
    Keeps StillReads (x >>= f) := by
  intro w reads
  have before := first w reads
  rw [run_bind]
  generalize x.run w = p at before ⊢
  obtain ⟨fault | a, v⟩ := p
  · exact before
  · exact rest a v before

private theorem stillReads_elapse (t : Number) :
    Keeps StillReads (elapse t : Action ε Number Unit) := by
  intro w reads
  by_cases fits : TimeScale.Fits t
  · obtain ⟨v, elapsed, still⟩ := run_elapse_double fits reads
    rwa [elapsed]
  · obtain ⟨x, clock⟩ := reads
    have raised : (sum w.clock t : Action ε Number Number).run w = (.error .numberTooLarge, w) := by
      rw [clock, sum, TimeScale.add_eq_none fits x]
      rfl
    rw [elapse, run_bind_ok (run_read w World.clock), run_bind_error raised]
    exact ⟨x, clock⟩

private theorem stillReads_happen (h : Happening Number (FollowUp Number)) :
    Keeps StillReads (happen h : Action ε Number Unit) := by
  cases h with
  | elapse t => exact stillReads_elapse t
  | quit key => exact fun w reads => reads
  | lose key => exact fun w reads => reads
  | send further => exact fun w reads => reads

private theorem stillReads_perform (call : Call ε Number α) : Keeps StillReads (perform call) := by
  have happens (items : List (Happening Number (FollowUp Number))) :
      Keeps StillReads (each items happen : Action ε Number Unit) := by
    induction items with
    | nil => exact fun w reads => reads
    | cons h rest ih => exact stillReads_bind (stillReads_happen h) fun _ => ih
  have rest : Keeps StillReads (do
      let x ← react call.exchange
      each x.happenings happen
      ofExcept x.answer : Action ε Number α) := by
    refine stillReads_bind (fun w reads => reads) fun x => ?_
    refine stillReads_bind (happens x.happenings) fun _ w reads => ?_
    rwa [run_ofExcept]
  unfold perform
  cases call.event with
  | none => exact stillReads_bind (fun w reads => reads) fun _ => rest
  | some event => exact stillReads_bind (fun w reads => reads) fun _ => rest

theorem stillReads_sleep (t : Number) : Keeps StillReads (sleep t : Action ε Number Unit) := by
  refine stillReads_bind (fun w reads => reads) fun isBounded => ?_
  split
  · exact fun w reads => reads
  · exact stillReads_bind (fun w reads => reads) fun _ => stillReads_elapse t

theorem stillReads_ask (service : Service ε Number) (inquiry : Inquiry Number) :
    Keeps StillReads (ask service inquiry) :=
  stillReads_bind (fun _ reads => reads) fun _ => stillReads_perform _

end Still

end Action

namespace Wait

section Calls

variable {ε τ α : Type} [TimeScale τ] (ask : Action ε τ α) (isGood : α → Bool)
  (interval deadline : τ) (isBound : Bool)

def pause : Action ε τ Bool := do
  let remaining ← Action.timeUntil deadline
  if TimeScale.isOver remaining then return false
  else
    Action.sleep (TimeScale.least interval remaining)
    return true

def callsFrom : Nat → World ε τ → List (World ε τ)
  | 0, _ => []
  | calls + 1, w =>
    w ::
      match ask.run w with
      | (.ok answer, v) =>
        if isGood answer || (isBound && calls = 0) then []
        else
          match (pause interval deadline).run v with
          | (.ok true, u) => callsFrom calls u
          | _ => []
      | (.error _, _) => []

variable {ask isGood interval deadline isBound}

theorem holds_of_mem_callsFrom {I : World ε τ → Prop} (asks : ∀ w, I w → I (ask.run w).2)
    (pauses : ∀ w, I w → I ((pause interval deadline).run w).2) {calls : Nat} {w v : World ε τ}
    (there : v ∈ callsFrom ask isGood interval deadline isBound calls w) (holds : I w) : I v := by
  induction calls generalizing w with
  | zero => cases there
  | succ calls ih =>
    rw [callsFrom] at there
    rcases List.mem_cons.1 there with rfl | there
    · exact holds
    have asked := asks w holds
    split at there
    case h_2 => cases there
    case h_1 answer u gives =>
      rw [gives] at asked
      have rested := pauses u asked
      split at there
      · cases there
      split at there
      case h_2 => cases there
      case h_1 t paused =>
        rw [paused] at rested
        exact ih there rested

/-- The worlds in which a wait calls are related to the one where it starts, if what is done between
two calls keeps a frame. -/
theorem rel_of_mem_callsFrom {R : World ε τ → World ε τ → Prop} {warns : Prop} (hR : Frame R warns)
    (asks : Keeps R ask)
    (noted : ∀ duration, Keeps R (Action.note (.slept duration) : Action ε τ Unit)) {calls : Nat}
    {w v : World ε τ} (there : v ∈ callsFrom ask isGood interval deadline isBound calls w) :
    R w v := by
  have pauses : Keeps R (pause interval deadline : Action ε τ Bool) := by
    refine hR.keeps_bind (hR.keeps_timeUntil deadline) fun left => ?_
    split
    · exact hR.keeps_pure false
    · exact hR.keeps_bind (hR.keeps_sleep noted _) fun _ => hR.keeps_pure true
  exact holds_of_mem_callsFrom (I := R w) (fun v related => hR.trans related (asks v))
    (fun v related => hR.trans related (pauses v)) there (hR.refl w)

private theorem run_loop_bad {w v : World ε τ} {answer : α} (asked : ask.run w = (.ok answer, v))
    (bad : isGood answer = false) {calls : Nat} (more : (isBound && calls = 0) = false) :
    (loop ask isGood interval deadline isBound (calls + 1)).run w =
      (pause interval deadline >>= fun paused =>
        if paused then loop ask isGood interval deadline isBound calls
        else return .outOfTime answer).run v := by
  rw [loop, Action.run_bind_ok asked, if_neg (by simp [bad]), if_neg (by simp [more]), pause]
  rw [bind_assoc]
  refine congrArg (fun rest => (Action.timeUntil deadline >>= rest).run v) (funext fun left => ?_)
  split
  · rfl
  · rw [bind_assoc]
    rfl

theorem run_loop_vain {I : World ε τ → Prop} {calls : Nat} {w : World ε τ} (some : 0 < calls)
    (asks : ∀ v ∈ callsFrom ask isGood interval deadline true calls w, I v →
      ∃ answer u, ask.run v = (.ok answer, u) ∧ isGood answer = false ∧
        (1 < calls → ∃ paused x, (pause interval deadline).run u = (.ok paused, x) ∧ I x))
    (holds : I w) :
    ∃ ending answer u, (loop ask isGood interval deadline true calls).run w = (.ok ending, u) ∧
      ending.answer? = .some answer ∧ isGood answer = false := by
  induction calls generalizing w with
  | zero => cases some
  | succ calls ih =>
    obtain ⟨answer, v, asked, bad, pauses⟩ := asks w List.mem_cons_self holds
    by_cases last : calls = 0
    · subst last
      refine ⟨.outOfCalls answer, answer, v, ?_, rfl, bad⟩
      rw [loop, Action.run_bind_ok asked, if_neg (by simp [bad]), if_pos (by simp)]
      rfl
    have more : (true && decide (calls = 0)) = false := by simpa using last
    obtain ⟨paused, u, rested, ready⟩ := pauses (by omega)
    rw [run_loop_bad asked bad more, Action.run_bind_ok rested]
    cases paused with
    | false => exact ⟨.outOfTime answer, answer, u, rfl, rfl, bad⟩
    | true =>
      refine ih (Nat.pos_of_ne_zero last) (fun x there holds => ?_) ready
      have later : x ∈ callsFrom ask isGood interval deadline true (calls + 1) w := by
        refine List.mem_cons_of_mem w ?_
        simpa [asked, bad, last, rested] using there
      obtain ⟨answer, y, asked, bad, pauses⟩ := asks x later holds
      exact ⟨answer, y, asked, bad, fun more => pauses (by omega)⟩

end Calls

section Double

variable {ε : Type} {interval : Number} {v : World ε Number}

/-- By a clock that reads a double, a wait can pause unless its interval is below zero or its sleep
beyond all bounds. -/
theorem run_pause_double (fits : TimeScale.Fits interval)
    (patient : TimeScale.le TimeScale.zero interval = true) {deadline : Float}
    (bounded : ∀ left, TimeScale.sub? (.real deadline) v.clock = some left →
      TimeScale.isOver left = false → TimeScale.beyond? (TimeScale.least interval left) = none)
    (reads : v.ReadsDouble) :
    ∃ paused u, (pause interval (.real deadline)).run v = (.ok paused, u) ∧ u.ReadsDouble := by
  obtain ⟨left, subtracted, until_⟩ := Action.run_timeUntil_double reads deadline
  unfold pause
  rw [Action.run_bind_ok until_]
  cases spent : TimeScale.isOver (Number.real left) with
  | true => exact ⟨false, v, rfl, reads⟩
  | false =>
    have short : TimeScale.Fits (TimeScale.least interval (.real left)) := by
      unfold TimeScale.least
      split
      · rfl
      · exact fits
    obtain ⟨u, slept, still⟩ :=
      Action.run_sleep_double short (TimeScale.isNegative_least patient spent)
        (bounded _ subtracted spent) reads
    refine ⟨true, u, ?_, still⟩
    exact Action.run_bind_ok slept

end Double

end Wait

namespace Settings

open Validation

private theorem fits_number {v : Json} {t : Number} (valid : number v = .valid t) :
    TimeScale.Fits t := by
  unfold number unlessSurrogate at valid
  split at valid
  · cases valid
    rfl
  · split at valid
    · cases valid
      rfl
    · cases valid
  · split at valid
    · cases valid
    · split at valid
      · cases valid
        rfl
      · cases valid
  · cases valid

theorem fits_of_ofJson {data : Json} {s : Settings Number} (valid : ofJson data = .ok s) :
    TimeScale.Fits s.pollTimeout ∧ TimeScale.Fits s.pollInterval := by
  obtain ⟨m, -, checked⟩ := checkFields_of_ofJson valid
  have fits {name : String} {t absent : Number} (whole : TimeScale.Fits absent)
      (read : withDefault m (.simple name) number absent = .valid t) : TimeScale.Fits t := by
    rcases read_of_withDefault read with rfl | ⟨v, read⟩
    · exact whole
    · exact fits_number read
  have ten : TimeScale.Fits (.int 10) := by rfl
  exact ⟨fits ten (pollTimeout_of_checkFields checked),
    fits (TimeScale.fits_real 0.5) (pollInterval_of_checkFields checked)⟩

end Settings

end LocatorHealing
