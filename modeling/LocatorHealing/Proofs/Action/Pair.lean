import Mathlib.Data.List.Forall2
import LocatorHealing.Session.Driver
import LocatorHealing.Wait

set_option autoImplicit false
set_option relaxedAutoImplicit false

/-!
Two actions side by side, each in a world of its own. They come to the same if related worlds make
them end in the same way, with related values, and leave the worlds related. The clocks of the two
worlds need not agree, as long as they run side by side: a wait sees no more than differences of
their readings.
-/

namespace LocatorHealing

variable {ε τ α β γ δ : Type}

namespace Action

/-- Two ends of the same kind: related values, or one and the same fault. -/
inductive EndsAlike (V : α → β → Prop) : Except Fault α → Except Fault β → Prop where
  | ok {a : α} {b : β} (related : V a b) : EndsAlike V (.ok a) (.ok b)
  | error (fault : Fault) : EndsAlike V (.error fault) (.error fault)

theorem EndsAlike.refl (r : Except Fault α) : EndsAlike Eq r r := by
  cases r with
  | ok a => exact .ok rfl
  | error fault => exact .error fault

theorem EndsAlike.eq {r s : Except Fault α} (alike : EndsAlike Eq r s) : r = s := by
  cases alike with
  | ok same => rw [same]
  | error fault => rfl

/-- In related worlds two actions end alike, and leave related worlds. -/
def Pairs (R : World ε τ → World ε τ → Prop) (V : α → β → Prop) (x : Action ε τ α)
    (y : Action ε τ β) : Prop :=
  ∀ w v, R w v → EndsAlike V (x.run w).1 (y.run v).1 ∧ R (x.run w).2 (y.run v).2

section Basic

variable {R : World ε τ → World ε τ → Prop} {V : α → β → Prop} {U : γ → δ → Prop}

theorem pairs_pure {a : α} {b : β} (related : V a b) :
    Pairs R V (pure a : Action ε τ α) (pure b) :=
  fun _ _ worlds => ⟨.ok related, worlds⟩

theorem pairs_raise (fault : Fault) :
    Pairs R V (raise fault : Action ε τ α) (raise fault : Action ε τ β) :=
  fun _ _ worlds => ⟨.error fault, worlds⟩

theorem pairs_ofExcept {r : Except Fault α} {s : Except Fault β} (alike : EndsAlike V r s) :
    Pairs R V (ofExcept r : Action ε τ α) (ofExcept s) := by
  intro w v worlds
  rw [run_ofExcept, run_ofExcept]
  exact ⟨alike, worlds⟩

theorem pairs_read {f : World ε τ → α} {g : World ε τ → β} (reads : ∀ w v, R w v → V (f w) (g v)) :
    Pairs R V (read f) (read g) :=
  fun w v worlds => ⟨.ok (reads w v worlds), worlds⟩

theorem pairs_modify {f g : World ε τ → World ε τ} (changes : ∀ w v, R w v → R (f w) (g v)) :
    Pairs R Eq (modify f) (modify g) :=
  fun w v worlds => ⟨.ok rfl, changes w v worlds⟩

theorem pairs_bind {x : Action ε τ α} {y : Action ε τ β} {f : α → Action ε τ γ}
    {g : β → Action ε τ δ} (first : Pairs R V x y)
    (second : ∀ a b, V a b → Pairs R U (f a) (g b)) : Pairs R U (x >>= f) (y >>= g) := by
  intro w v worlds
  obtain ⟨ends, after⟩ := first w v worlds
  rw [run_bind, run_bind]
  generalize x.run w = p at ends after ⊢
  generalize y.run v = q at ends after ⊢
  obtain ⟨r, w'⟩ := p
  obtain ⟨s, v'⟩ := q
  cases ends with
  | ok related => exact second _ _ related w' v' after
  | error fault => exact ⟨.error fault, after⟩

theorem pairs_then {x y : Action ε τ α} {f : α → Action ε τ γ} {g : α → Action ε τ δ}
    (first : Pairs R Eq x y) (second : ∀ a, Pairs R U (f a) (g a)) :
    Pairs R U (x >>= f) (y >>= g) := by
  refine pairs_bind first fun a _ same => ?_
  rw [← same]
  exact second a

theorem pairs_ending {x : Action ε τ α} {y : Action ε τ β} (pairs : Pairs R V x y) :
    Pairs R (EndsAlike V) x.attempt y.attempt :=
  fun w v worlds => ⟨.ok (pairs w v worlds).1, (pairs w v worlds).2⟩

theorem pairs_attempt {x y : Action ε τ α} (pairs : Pairs R Eq x y) :
    Pairs R Eq x.attempt y.attempt :=
  fun w v worlds => ⟨.ok (pairs w v worlds).1.eq, (pairs w v worlds).2⟩

private theorem pairs_all {items : List α} {others : List β} {f : α → Action ε τ Unit}
    {g : β → Action ε τ Unit}
    (pairs : List.Forall₂ (fun a b => Pairs R Eq (f a) (g b)) items others) :
    Pairs R Eq (each items f) (each others g) := by
  induction pairs with
  | nil => exact pairs_pure rfl
  | cons first _ ih => exact pairs_then first fun _ => ih

theorem pairs_each {items : List α} {f g : α → Action ε τ Unit}
    (pairs : ∀ a ∈ items, Pairs R Eq (f a) (g a)) : Pairs R Eq (each items f) (each items g) :=
  pairs_all (List.forall₂_same.2 pairs)

end Basic

end Action

open LocatorHealing.Action (Pairs EndsAlike pairs_pure pairs_raise pairs_ofExcept pairs_read
  pairs_modify pairs_bind pairs_then pairs_all)

/-- A relation between readings of two clocks that run side by side: it stays when the same time
passes on both, and differences are the same on both. -/
class Parallel [TimeScale τ] (T : τ → τ → Prop) : Prop where
  add : ∀ {a b} duration, T a b →
    Option.Rel T (TimeScale.add? a duration) (TimeScale.add? b duration)
  sub : ∀ {a b c d}, T a b → T c d → TimeScale.sub? a c = TimeScale.sub? b d

instance [TimeScale τ] : Parallel (Eq : τ → τ → Prop) where
  add {a b} duration same := by
    rw [same]
    cases TimeScale.add? b duration with
    | none => exact .none
    | some later => exact .some rfl
  sub same same' := by rw [same, same']

/-- A relation between worlds that sees their clocks, and that stays when the same is done in
both. -/
structure Attuned [TimeScale τ] (T : τ → τ → Prop) (R : World ε τ → World ε τ → Prop) : Prop where
  clock : ∀ {w v}, R w v → T w.clock v.clock
  later : ∀ {w v c d}, T c d → R w v → R { w with clock := c } { v with clock := d }
  notes : ∀ event, Pairs R Eq (Action.note event) (Action.note event)
  sleeps : ∀ {w v}, R w v → ∀ duration : τ,
    TimeScale.sleepFault? w.boundsSleep duration = TimeScale.sleepFault? v.boundsSleep duration

/-- Two states of the world outside that are the same to a call: it is answered in the same way, and
they stay so. -/
def Respects (same : ε → ε → Prop) (f : ε → α × ε) : Prop :=
  ∀ s t, same s t → (f s).1 = (f t).1 ∧ same (f s).2 (f t).2

theorem respects_eq (f : ε → α × ε) : Respects Eq f := by
  intro s t same
  rw [same]
  exact ⟨rfl, rfl⟩

theorem Respects.showing {same : ε → ε → Prop} {f : ε → Exchange τ Empty α × ε}
    (respects : Respects same f) (event : Event τ) :
    Respects same (Call.showing event f).exchange := by
  intro s t alike
  obtain ⟨answer, after⟩ := respects s t alike
  refine ⟨?_, after⟩
  simp only [Call.showing, answer]

/-- The world outside reacts in the same way in related worlds, and leaves them related. -/
def ReactsAlike (R : World ε τ → World ε τ → Prop) (f : ε → α × ε) : Prop :=
  Pairs R Eq (Action.react f) (Action.react f)

namespace Attuned

variable [TimeScale τ] {T : τ → τ → Prop} {R : World ε τ → World ε τ → Prop} (hR : Attuned T R)
include hR

theorem pairs_clock : Pairs R T (Action.read World.clock) (Action.read World.clock) :=
  pairs_read fun _ _ => hR.clock

variable [Parallel T]

omit hR in
theorem pairs_sum {a b : τ} (times : T a b) (duration : τ) :
    Pairs R T (Action.sum a duration) (Action.sum b duration) := by
  have sums := Parallel.add duration times
  refine pairs_ofExcept ?_
  generalize TimeScale.add? a duration = x at sums ⊢
  generalize TimeScale.add? b duration = y at sums ⊢
  cases sums with
  | none => exact .error _
  | some later => exact .ok later

theorem pairs_timeUntil {a b : τ} (deadlines : T a b) :
    Pairs R Eq (Action.timeUntil a) (Action.timeUntil b) := by
  refine pairs_bind hR.pairs_clock fun now now' clocks => ?_
  unfold Action.difference
  rw [Parallel.sub deadlines clocks]
  exact pairs_ofExcept (.refl _)

theorem pairs_elapse (duration : τ) :
    Pairs R Eq (Action.elapse duration) (Action.elapse duration) := by
  refine pairs_bind hR.pairs_clock fun now now' clocks => ?_
  refine pairs_bind (pairs_sum clocks duration) fun later later' clocks => ?_
  exact pairs_modify fun _ _ => hR.later clocks

private theorem pairs_sleep (duration : τ) :
    Pairs R Eq (Action.sleep duration) (Action.sleep duration) := by
  refine pairs_bind (V := fun b b' => TimeScale.sleepFault? b duration =
    TimeScale.sleepFault? b' duration) (pairs_read fun _ _ worlds => hR.sleeps worlds duration)
    fun b b' same => ?_
  rw [same]
  split
  · exact pairs_raise _
  · exact pairs_then (hR.notes _) fun _ => hR.pairs_elapse duration

omit hR [Parallel T] in
/-- Two calls come to the same in related worlds if they are answered in the same way, what the
trace shows of them leaves the worlds related, and so does what happens meanwhile. -/
theorem pairs_calls {call call' : Call ε τ α}
    (shows : Option.Rel (fun event event' => Pairs R Eq (Action.note event) (Action.note event'))
      call.event call'.event)
    (reacts : Pairs R (fun x y => y.answer = x.answer ∧
        List.Forall₂ (fun h h' => Pairs R Eq (Action.happen h) (Action.happen h')) x.happenings
          y.happenings)
      (Action.react call.exchange) (Action.react call'.exchange)) :
    Pairs R Eq (Action.perform call) (Action.perform call') := by
  have rest : Pairs R Eq (do
        let x ← Action.react call.exchange
        Action.each x.happenings Action.happen
        Action.ofExcept x.answer) (do
        let x ← Action.react call'.exchange
        Action.each x.happenings Action.happen
        Action.ofExcept x.answer) := by
    refine pairs_bind reacts fun x y ⟨answer, happens⟩ => ?_
    rw [answer]
    exact pairs_then (pairs_all happens) fun _ => pairs_ofExcept (.refl _)
  unfold Action.perform
  generalize call.event = event at shows
  generalize call'.event = event' at shows
  cases shows with
  | none => exact pairs_then (pairs_pure rfl) fun _ => rest
  | some noted => exact pairs_then noted fun _ => rest

omit [Parallel T] in
theorem pairs_call {call : Call ε τ α} (reacts : ReactsAlike R call.exchange)
    (happens : ∀ s, ∀ h ∈ (call.exchange s).1.happenings,
      Pairs R Eq (Action.happen h) (Action.happen h)) :
    Pairs R Eq (Action.perform call) (Action.perform call) := by
  refine pairs_calls ?_ fun w v worlds => ?_
  · cases call.event with
    | none => exact .none
    | some event => exact .some (hR.notes event)
  · obtain ⟨ends, after⟩ := reacts w v worlds
    have same : (call.exchange w.outside).1 = (call.exchange v.outside).1 := Except.ok.inj ends.eq
    refine ⟨.ok ⟨by rw [same], ?_⟩, after⟩
    rw [← same]
    exact List.forall₂_same.2 (happens w.outside)

private theorem pairs_loop {ask ask' : Action ε τ α} (asks : Pairs R Eq ask ask')
    (isGood : α → Bool)
    (interval : τ) {deadline deadline' : τ} (deadlines : T deadline deadline') (isBound : Bool)
    (calls : Nat) :
    Pairs R Eq (Wait.loop ask isGood interval deadline isBound calls)
      (Wait.loop ask' isGood interval deadline' isBound calls) := by
  induction calls with
  | zero => exact pairs_pure rfl
  | succ calls ih =>
    unfold Wait.loop
    refine pairs_then asks fun answer => ?_
    split
    · exact pairs_pure rfl
    split
    · exact pairs_pure rfl
    refine pairs_then (hR.pairs_timeUntil deadlines) fun remaining => ?_
    split
    · exact pairs_pure rfl
    · exact pairs_then (hR.pairs_sleep _) fun _ => ih

theorem pairs_wait {ask ask' : Action ε τ α} (asks : Pairs R Eq ask ask') (isGood : α → Bool)
    (timeout interval : τ) (calls : Wait.Calls) :
    Pairs R Eq (Wait.wait ask isGood timeout interval calls)
      (Wait.wait ask' isGood timeout interval calls) := by
  refine pairs_bind hR.pairs_clock fun now now' clocks => ?_
  refine pairs_bind (pairs_sum clocks timeout) fun deadline deadline' deadlines => ?_
  exact hR.pairs_loop asks isGood interval deadlines _ _

end Attuned

/-- A relation between worlds that no call breaks if it is reacted to in the same way in both. -/
structure Companions [TimeScale τ] (T : τ → τ → Prop) (R : World ε τ → World ε τ → Prop) : Prop
    extends Attuned T R where
  closes : ∀ key, Pairs R Eq (Action.modifySession key fun s => { s with closed := true })
    (Action.modifySession key fun s => { s with closed := true })
  loses : ∀ key, Pairs R Eq (Action.modifySession key fun s => { s with sessionId := .null })
    (Action.modifySession key fun s => { s with sessionId := .null })

namespace Companions

variable [TimeScale τ] {T : τ → τ → Prop} {R : World ε τ → World ε τ → Prop}
  (hR : Companions T R) [Parallel T]
include hR

theorem pairs_happen (h : Happening τ (FollowUp τ)) :
    Pairs R Eq (Action.happen h) (Action.happen h) := by
  cases h with
  | elapse duration => exact hR.pairs_elapse duration
  | quit key => exact pairs_then (hR.closes key) fun _ => hR.notes _
  | lose key => exact hR.loses key
  | send further => exact hR.notes _

theorem pairs_perform {call : Call ε τ α} (reacts : ReactsAlike R call.exchange) :
    Pairs R Eq (Action.perform call) (Action.perform call) :=
  hR.pairs_call reacts fun _ h _ => hR.pairs_happen h

theorem pairs_ask {service : Service ε τ} {inquiry : Inquiry τ}
    (reacts : ReactsAlike R (service.call inquiry).exchange) :
    Pairs R Eq (Action.ask service inquiry) (Action.ask service inquiry) :=
  pairs_then (hR.notes _) fun _ => hR.pairs_perform reacts

end Companions

/-- A relation between worlds that are the same to whoever is in them, whatever is logged. -/
structure Twins [TimeScale τ] (R : World ε τ → World ε τ → Prop) : Prop
    extends Companions Eq R where
  logs : ∀ {w v} log log', R w v → R { w with log } { v with log := log' }

theorem Twins.pairs_log [TimeScale τ] {R : World ε τ → World ε τ → Prop} (hR : Twins R)
    (level level' : Level) (message message' : String) :
    Pairs R Eq (Action.log level message) (Action.log level' message') := by
  intro w v worlds
  obtain ⟨log, logged⟩ := Action.run_log level message w
  obtain ⟨log', logged'⟩ := Action.run_log level' message' v
  rw [logged, logged']
  exact ⟨.ok rfl, hR.logs log log' worlds⟩

end LocatorHealing
