import LocatorHealing.Audit
import LocatorHealing.Session.Driver
import LocatorHealing.Wait

set_option autoImplicit false
set_option relaxedAutoImplicit false

/-!
What an action leaves as it was. A frame is a relation between the world before and the world
after, which holds if nothing is done and passes from one action to the next. An action keeps it if
all that the action is made of does, whatever faults end parts of it. A frame may tell warnings from
other messages: then an action keeps it that warns nobody.
-/

namespace LocatorHealing

variable {ε τ α β : Type}

def Level.isQuiet (level : Level) : Bool :=
  level.rank < Level.warning.rank

@[simp] theorem Level.isQuiet_debug : Level.debug.isQuiet = true := rfl

@[simp] theorem Level.isQuiet_info : Level.info.isQuiet = true := rfl

/-- A log has grown, by warnings only if there may be some. -/
def Logged (warns : Prop) (log log' : List (Level × String)) : Prop :=
  ∃ more, log' = log ++ more ∧ ∀ p ∈ more, p.1.isQuiet = true ∨ warns

section Logged

variable {warns : Prop} {log log' log'' : List (Level × String)}

theorem Logged.refl (log : List (Level × String)) : Logged warns log log :=
  ⟨[], (List.append_nil _).symm, nofun⟩

theorem Logged.trans (first : Logged warns log log') (second : Logged warns log' log'') :
    Logged warns log log'' := by
  obtain ⟨more, rfl, early⟩ := first
  obtain ⟨more', rfl, late⟩ := second
  refine ⟨more ++ more', List.append_assoc _ _ _, fun p there => ?_⟩
  rcases List.mem_append.1 there with before | after
  · exact early p before
  · exact late p after

theorem Logged.mono {more : Prop} (logged : Logged warns log log') (le : warns → more) :
    Logged more log log' := by
  obtain ⟨added, grown, quiet⟩ := logged
  exact ⟨added, grown, fun p there => (quiet p there).imp_right le⟩

theorem Action.run_log_logged {level : Level} (may : level.isQuiet = true ∨ warns)
    (message : String) (w : World ε τ) :
    ∃ log, (Action.log level message).run w = (.ok (), { w with log }) ∧
      Logged warns w.log log := by
  simp only [Action.log, run_modify]
  split
  · refine ⟨_, rfl, [(level, message)], rfl, fun p there => ?_⟩
    obtain rfl := List.mem_singleton.1 there
    exact may
  · exact ⟨w.log, rfl, .refl _⟩

end Logged

/-- A relation between worlds that holds when nothing is done, when one thing is done after another,
and when only the clock has changed, or the log, by warnings only if there may be some. -/
structure Frame (R : World ε τ → World ε τ → Prop) (warns : Prop := True) : Prop where
  refl : ∀ w, R w w
  trans : ∀ {u v w}, R u v → R v w → R u w
  log : ∀ w log, Logged warns w.log log → R w { w with log }
  clock : ∀ w clock, R w { w with clock }

namespace Action

/-- However an action ends, the worlds before it and after it are related. -/
def Keeps (R : World ε τ → World ε τ → Prop) (x : Action ε τ α) : Prop :=
  ∀ w, R w (x.run w).2

end Action

namespace Frame

open LocatorHealing.Action (Keeps)

variable {R : World ε τ → World ε τ → Prop} {warns : Prop} (hR : Frame R warns)
include hR

theorem keeps_pure (a : α) : Keeps R (pure a : Action ε τ α) :=
  fun w => hR.refl w

theorem keeps_raise (fault : Fault) : Keeps R (Action.raise fault : Action ε τ α) :=
  fun w => hR.refl w

theorem keeps_read (f : World ε τ → α) : Keeps R (Action.read f) :=
  fun w => hR.refl w

theorem keeps_session (key : String) : Keeps R (Action.session key : Action ε τ _) :=
  hR.keeps_read _

theorem keeps_ofExcept (r : Except Fault α) : Keeps R (Action.ofExcept r : Action ε τ α) := by
  intro w
  rw [Action.run_ofExcept]
  exact hR.refl w

theorem keeps_bind {x : Action ε τ α} {f : α → Action ε τ β} (hx : Keeps R x)
    (hf : ∀ a, Keeps R (f a)) : Keeps R (x >>= f) := by
  intro w
  have first := hx w
  rw [Action.run_bind]
  generalize x.run w = p at first ⊢
  obtain ⟨r, v⟩ := p
  cases r with
  | ok a => exact hR.trans first (hf a v)
  | error fault => exact first

theorem after_bind {x : Action ε τ α} {f : α → Action ε τ β} (hf : ∀ a, Keeps R (f a))
    (w : World ε τ) : R (x.run w).2 ((x >>= f).run w).2 := by
  rw [Action.run_bind]
  generalize x.run w = p
  obtain ⟨r, v⟩ := p
  cases r with
  | ok a => exact hf a v
  | error fault => exact hR.refl v

omit hR in
theorem keeps_attempt {x : Action ε τ α} (hx : Keeps R x) : Keeps R x.attempt :=
  fun w => hx w

theorem keeps_each {items : List α} {f : α → Action ε τ Unit} (hf : ∀ a ∈ items, Keeps R (f a)) :
    Keeps R (Action.each items f) := by
  induction items with
  | nil => exact hR.keeps_pure ()
  | cons a rest ih =>
    refine hR.keeps_bind (hf a List.mem_cons_self) fun _ => ih fun b hb => ?_
    exact hf b (List.mem_cons_of_mem a hb)

theorem keeps_log (level : Level) (message : String)
    (may : level.isQuiet = true ∨ warns := by simp) :
    Keeps R (Action.log level message : Action ε τ Unit) := by
  intro w
  obtain ⟨log, logged, grown⟩ := Action.run_log_logged may message w
  rw [logged]
  exact hR.log w log grown

theorem keeps_report (options : HealingOptions) (message : String)
    (wanted : options.selfHeal = true → warns := by exact fun _ => trivial) :
    Keeps R (Action.report options message : Action ε τ Unit) := by
  refine hR.keeps_log _ _ ?_
  cases asked : options.selfHeal with
  | true => exact .inr (wanted asked)
  | false => exact .inl rfl

section Time

variable [TimeScale τ]

theorem keeps_sum (a b : τ) : Keeps R (Action.sum a b : Action ε τ τ) :=
  hR.keeps_ofExcept _

theorem keeps_elapse (duration : τ) : Keeps R (Action.elapse duration : Action ε τ Unit) :=
  hR.keeps_bind (hR.keeps_read _) fun _ =>
    hR.keeps_bind (hR.keeps_sum _ _) fun later w => hR.clock w later

theorem keeps_timeUntil (deadline : τ) : Keeps R (Action.timeUntil deadline : Action ε τ τ) :=
  hR.keeps_bind (hR.keeps_read _) fun _ => hR.keeps_ofExcept _

theorem keeps_sleep (noted : ∀ duration, Keeps R (Action.note (.slept duration) : Action ε τ Unit))
    (duration : τ) : Keeps R (Action.sleep duration : Action ε τ Unit) := by
  refine hR.keeps_bind (hR.keeps_read _) fun isBounded => ?_
  split
  · exact hR.keeps_raise _
  · exact hR.keeps_bind (noted duration) fun _ => hR.keeps_elapse duration

/-- A call keeps what its event keeps, the reaction outside and all that happens meanwhile. -/
theorem keeps_perform {call : Call ε τ α}
    (shown : ∀ event, call.event = some event → Keeps R (Action.note event : Action ε τ Unit))
    (reacts : ∀ w, R w ((Action.each (call.exchange w.outside).1.happenings Action.happen).run
      { w with outside := (call.exchange w.outside).2 }).2) :
    Keeps R (Action.perform call) := by
  have rest : Keeps R (do
      let x ← Action.react call.exchange
      Action.each x.happenings Action.happen
      Action.ofExcept x.answer) := by
    intro w
    have h := reacts w
    simp only [Action.run_bind, Action.run_react, Action.andThen_ok]
    generalize (Action.each (call.exchange w.outside).1.happenings Action.happen).run
      { w with outside := (call.exchange w.outside).2 } = p at h ⊢
    obtain ⟨r, v⟩ := p
    cases r with
    | ok u => exact hR.trans h (hR.keeps_ofExcept _ v)
    | error fault => exact h
  unfold Action.perform
  cases shows : call.event with
  | none => exact hR.keeps_bind (hR.keeps_pure ()) fun _ => rest
  | some event => exact hR.keeps_bind (shown event shows) fun _ => rest

theorem keeps_loop {ask : Action ε τ α} (isGood : α → Bool) (interval deadline : τ)
    (isBound : Bool) (calls : Nat) (asked : Keeps R ask)
    (noted : ∀ duration, Keeps R (Action.note (.slept duration) : Action ε τ Unit)) :
    Keeps R (Wait.loop ask isGood interval deadline isBound calls) := by
  induction calls with
  | zero => exact hR.keeps_pure _
  | succ calls ih =>
    unfold Wait.loop
    refine hR.keeps_bind asked fun answer => ?_
    split
    · exact hR.keeps_pure _
    split
    · exact hR.keeps_pure _
    refine hR.keeps_bind (hR.keeps_timeUntil deadline) fun remaining => ?_
    split
    · exact hR.keeps_pure _
    · exact hR.keeps_bind (hR.keeps_sleep noted _) fun _ => ih

end Time

end Frame

end LocatorHealing
