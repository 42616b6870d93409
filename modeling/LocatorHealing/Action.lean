import LocatorHealing.World

set_option autoImplicit false
set_option relaxedAutoImplicit false

/-!
Actions: functions that change the world and end with a value or a fault. A fault undoes nothing.
Whatever is done is appended to the trace with the clock's reading, and whatever is logged at the
level in force or above is appended to the log.
-/

namespace LocatorHealing

/-- Something done in the world. -/
structure Action (ε τ α : Type) where
  run : World ε τ → Except Fault α × World ε τ

namespace Action

variable {ε τ α β : Type}

theorem ext {x y : Action ε τ α} (h : ∀ w, x.run w = y.run w) : x = y := by
  cases x
  cases y
  exact congrArg mk (funext h)

def pure (a : α) : Action ε τ α :=
  ⟨fun w => (.ok a, w)⟩

/-- Go on in the world that an action leaves, unless it ended with a fault. -/
def andThen (f : α → Action ε τ β) : Except Fault α × World ε τ → Except Fault β × World ε τ
  | (.ok a, w) => (f a).run w
  | (.error fault, w) => (.error fault, w)

def bind (x : Action ε τ α) (f : α → Action ε τ β) : Action ε τ β :=
  ⟨fun w => andThen f (x.run w)⟩

instance : Monad (Action ε τ) where
  pure := pure
  bind := bind

def raise (fault : Fault) : Action ε τ α :=
  ⟨fun w => (.error fault, w)⟩

def ofExcept : Except Fault α → Action ε τ α
  | .ok a => pure a
  | .error fault => raise fault

def attempt (x : Action ε τ α) : Action ε τ (Except Fault α) :=
  ⟨fun w => (.ok (x.run w).1, (x.run w).2)⟩

/-- Read something off the world. -/
def read (f : World ε τ → α) : Action ε τ α :=
  ⟨fun w => (.ok (f w), w)⟩

def modify (f : World ε τ → World ε τ) : Action ε τ Unit :=
  ⟨fun w => (.ok (), f w)⟩

/-- Let the world outside react. -/
def react (f : ε → α × ε) : Action ε τ α :=
  ⟨fun w => (.ok (f w.outside).1, { w with outside := (f w.outside).2 })⟩

section Laws

variable (w : World ε τ)

@[simp] theorem run_pure (a : α) : (Pure.pure a : Action ε τ α).run w = (.ok a, w) := rfl

@[simp] theorem run_bind (x : Action ε τ α) (f : α → Action ε τ β) :
    (x >>= f).run w = andThen f (x.run w) := rfl

@[simp] theorem andThen_ok (f : α → Action ε τ β) (a : α) :
    andThen f (.ok a, w) = (f a).run w := rfl

@[simp] theorem andThen_error (f : α → Action ε τ β) (fault : Fault) :
    andThen f (.error fault, w) = (.error fault, w) := rfl

@[simp] theorem run_raise (fault : Fault) :
    (raise fault : Action ε τ α).run w = (.error fault, w) := rfl

@[simp] theorem run_ofExcept (r : Except Fault α) : (ofExcept r).run w = (r, w) := by
  cases r with
  | ok a => rfl
  | error fault => rfl

@[simp] theorem run_attempt (x : Action ε τ α) :
    x.attempt.run w = (.ok (x.run w).1, (x.run w).2) := rfl

@[simp] theorem run_read (f : World ε τ → α) : (read f).run w = (.ok (f w), w) := rfl

@[simp] theorem run_modify (f : World ε τ → World ε τ) : (modify f).run w = (.ok (), f w) := rfl

@[simp] theorem run_react (f : ε → α × ε) :
    (react f).run w = (.ok (f w.outside).1, { w with outside := (f w.outside).2 }) := rfl

variable {w}

theorem run_bind_ok {x : Action ε τ α} {f : α → Action ε τ β} {a : α} {v : World ε τ}
    (h : x.run w = (.ok a, v)) : (x >>= f).run w = (f a).run v := by
  rw [run_bind, h, andThen_ok]

theorem run_bind_error {x : Action ε τ α} {f : α → Action ε τ β} {fault : Fault} {v : World ε τ}
    (h : x.run w = (.error fault, v)) : (x >>= f).run w = (.error fault, v) := by
  rw [run_bind, h, andThen_error]

theorem of_run_bind_ok {x : Action ε τ α} {f : α → Action ε τ β} {b : β} {u : World ε τ}
    (h : (x >>= f).run w = (.ok b, u)) :
    ∃ a v, x.run w = (.ok a, v) ∧ (f a).run v = (.ok b, u) := by
  rw [run_bind] at h
  rcases hx : x.run w with ⟨fault | a, v⟩
  · rw [hx, andThen_error] at h
    cases h
  · rw [hx, andThen_ok] at h
    exact ⟨a, v, rfl, h⟩

theorem of_run_bind_error {x : Action ε τ α} {f : α → Action ε τ β} {fault : Fault}
    {u : World ε τ} (h : (x >>= f).run w = (.error fault, u)) :
    x.run w = (.error fault, u) ∨
      ∃ a v, x.run w = (.ok a, v) ∧ (f a).run v = (.error fault, u) := by
  rw [run_bind] at h
  rcases hx : x.run w with ⟨other | a, v⟩
  · rw [hx, andThen_error] at h
    exact .inl (by cases h; rfl)
  · rw [hx, andThen_ok] at h
    exact .inr ⟨a, v, rfl, h⟩

end Laws

instance : LawfulMonad (Action ε τ) :=
  LawfulMonad.mk' _
    (by
      intro α x
      refine ext fun w => ?_
      change andThen _ (x.run w) = x.run w
      obtain ⟨r, v⟩ := x.run w
      cases r with
      | ok a => rfl
      | error fault => rfl)
    (by
      intro α β a f
      rfl)
    (by
      intro α β γ x f g
      refine ext fun w => ?_
      simp only [run_bind]
      obtain ⟨r, v⟩ := x.run w
      cases r with
      | ok a => rfl
      | error fault => rfl)

def each (items : List α) (f : α → Action ε τ Unit) : Action ε τ Unit :=
  match items with
  | [] => pure ()
  | a :: rest => bind (f a) fun _ => each rest f

theorem each_cons (a : α) (rest : List α) (f : α → Action ε τ Unit) :
    each (a :: rest) f = f a >>= fun _ => each rest f := rfl

theorem each_append (items more : List α) (f : α → Action ε τ Unit) :
    each (items ++ more) f = each items f >>= fun _ => each more f := by
  induction items with
  | nil => rfl
  | cons a rest ih => rw [List.cons_append, each_cons, ih, each_cons, bind_assoc]

theorem each_singleton (a : α) (f : α → Action ε τ Unit) : each [a] f = f a := by
  rw [each_cons]
  exact bind_pure (f a)

def log (level : Level) (message : String) : Action ε τ Unit :=
  modify fun w =>
    if w.level.rank ≤ level.rank then { w with log := w.log ++ [(level, message)] } else w

theorem run_log (level : Level) (message : String) (w : World ε τ) :
    ∃ log, (Action.log level message).run w = (.ok (), { w with log }) := by
  simp only [Action.log, run_modify]
  split
  · exact ⟨_, rfl⟩
  · exact ⟨w.log, rfl⟩

/-- Report a failure: a warning for users who asked for healing, and a detail for others. -/
def report (options : HealingOptions) (message : String) : Action ε τ Unit :=
  log (if options.selfHeal then .warning else .debug) message

def note (event : Event τ) : Action ε τ Unit :=
  modify fun w => { w with trace := w.trace ++ [⟨w.clock, event⟩] }

def session (key : String) : Action ε τ (Session ε τ) :=
  read fun w => w.sessions key

def modifySession (key : String) (f : Session ε τ → Session ε τ) : Action ε τ Unit :=
  modify fun w =>
    { w with sessions := fun other => if other = key then f (w.sessions key) else w.sessions other }

section Time

variable [TimeScale τ]

/-- A sum of times; one that is too large to hold is a fault. -/
def sum (a b : τ) : Action ε τ τ :=
  ofExcept ((TimeScale.add? a b).elim (.error .numberTooLarge) .ok)

def difference (a b : τ) : Action ε τ τ :=
  ofExcept ((TimeScale.sub? a b).elim (.error .numberTooLarge) .ok)

/-- Let time pass. -/
def elapse (duration : τ) : Action ε τ Unit := do
  let later ← sum (← read World.clock) duration
  modify fun w => { w with clock := later }

def timeUntil (deadline : τ) : Action ε τ τ := do
  difference deadline (← read World.clock)

def sleep (duration : τ) : Action ε τ Unit := do
  match TimeScale.sleepFault? (← read World.boundsSleep) duration with
  | some fault => raise fault
  | none =>
    note (.slept duration)
    elapse duration

/-- What happens to the world while a call is under way. -/
def happen : Happening τ (FollowUp τ) → Action ε τ Unit
  | .elapse duration => elapse duration
  | .quit key => do
    modifySession key fun s => { s with closed := true }
    note (.driver key .quit)
  | .lose key => modifySession key fun s => { s with sessionId := .null }
  | .send further => note (.http further.request)

def perform (call : Call ε τ α) : Action ε τ α := do
  match call.event with
  | some event => note event
  | none => pure ()
  let x ← react call.exchange
  each x.happenings happen
  ofExcept x.answer

def ask (service : Service ε τ) (inquiry : Inquiry τ) : Action ε τ inquiry.Answer := do
  note (.asked inquiry)
  perform (service.call inquiry)

end Time

end Action

end LocatorHealing
