import LocatorHealing.Proofs.Action.Pair
import LocatorHealing.Proofs.Healing.Frame

set_option autoImplicit false
set_option relaxedAutoImplicit false

/-!
Two runs side by side, for the same lookup and with the same healing, which may be audited in
different ways. If what they ask, command and look up comes to the same, and so do their endings,
then the runs do.
-/

namespace LocatorHealing

open LocatorHealing.Action (Pairs pairs_pure pairs_raise pairs_read pairs_bind pairs_then
  pairs_attempt)

variable {ε τ : Type}

namespace Healing

def audited (h : Healing ε τ) (directory : Option String) (file : Option FilePath) :
    Healing ε τ :=
  { h with settings := { h.settings with auditDirectory := directory }, auditFile := file }

def Run.through (r : Run ε τ) (directory : Option String) (file : Option FilePath)
    (look : Json → Json → Action ε τ Outcome) : Run ε τ :=
  { r with healing := r.healing.audited directory file, look }

variable [Outside ε τ] [TimeScale τ]

/-- All that two runs do comes to the same in related worlds. -/
structure Run.Mirrors (T : τ → τ → Prop) (R : World ε τ → World ε τ → Prop) (r : Run ε τ)
    (directory : Option String) (file : Option FilePath)
    (look : Json → Json → Action ε τ Outcome) : Prop where
  attuned : Attuned T R
  logs : ∀ level message, Pairs R Eq (Action.log level message) (Action.log level message)
  sessions : ∀ w v, R w v → (v.sessions r.session).isActive = (w.sessions r.session).isActive ∧
    (v.sessions r.session).sessionId = (w.sessions r.session).sessionId
  scripts : ∀ script, Pairs R Eq (Session.execute r.session script [])
    (Session.execute r.session script [])
  asks : ∀ inquiry, r.Asks inquiry → Pairs R Eq (Action.ask r.healing.service inquiry)
    (Action.ask r.healing.service inquiry)
  looks : ∀ strategy value, Pairs R Eq (r.look strategy value) (look strategy value)
  finishes : ∀ p outcome,
    Pairs R Eq (r.finish p outcome) ((r.through directory file look).finish p outcome)

namespace Run.Mirrors

variable {T : τ → τ → Prop} {R : World ε τ → World ε τ → Prop} {r : Run ε τ}
  {directory : Option String} {file : Option FilePath} {look : Json → Json → Action ε τ Outcome}
  (mirrors : r.Mirrors T R directory file look)
include mirrors

private theorem pairs_ensureActive :
    Pairs R Eq r.ensureActive (r.through directory file look).ensureActive := by
  refine pairs_bind (pairs_read (V := fun s t => t.isActive = s.isActive ∧
    t.sessionId = s.sessionId) mirrors.sessions) fun s t ⟨active, named⟩ => ?_
  rw [active, named]
  split
  · exact pairs_pure rfl
  · exact pairs_raise _

private theorem pairs_logUsage :
    Pairs R Eq r.logUsage (r.through directory file look).logUsage := by
  refine pairs_then (mirrors.asks _ .log) fun answer => ?_
  split
  · exact pairs_then (mirrors.scripts _) fun _ => pairs_pure rfl
  · exact pairs_pure rfl

private theorem pairs_runScript (script : String) :
    Pairs R Eq (r.runScript script) ((r.through directory file look).runScript script) :=
  pairs_then mirrors.pairs_ensureActive fun _ =>
    pairs_then (mirrors.scripts script) fun _ => pairs_pure rfl

private theorem pairs_recover (p : Progress) (fault : Fault) :
    Pairs R Eq (r.recover p fault) ((r.through directory file look).recover p fault) := by
  have rest : Pairs R Eq (do
      let outcome ← r.look r.attempt.strategy r.attempt.value
      r.finish (p.enter .returnFirstFailure) outcome) (do
      let outcome ← look r.attempt.strategy r.attempt.value
      (r.through directory file look).finish (p.enter .returnFirstFailure) outcome) :=
    pairs_then (mirrors.looks _ _) fun _ => mirrors.finishes _ _
  unfold recover
  split
  · exact pairs_then (mirrors.logs _ _) fun _ => mirrors.finishes _ _
  · change Pairs _ _ (if r.options.selfHeal then _ else _) (if r.options.selfHeal then _ else _)
    split
    · exact pairs_then (mirrors.logs _ _) fun _ => rest
    · exact pairs_then (mirrors.logs _ _) fun _ => rest

private theorem pairs_guarded {α : Type} (p : Progress) {x y : Action ε τ α}
    {next next' : α → Action ε τ Ending} (pairs : Pairs R Eq x y)
    (goesOn : ∀ a, Pairs R Eq (next a) (next' a)) :
    Pairs R Eq (r.guarded p x next) ((r.through directory file look).guarded p y next') := by
  refine pairs_then (pairs_attempt pairs) fun result => ?_
  cases result with
  | ok a => exact goesOn a
  | error fault => exact mirrors.pairs_recover p fault

private theorem pairs_close (p : Progress) (state : State) (outcome : Outcome) :
    Pairs R Eq (r.close p state outcome)
      ((r.through directory file look).close p state outcome) :=
  mirrors.pairs_guarded _ (mirrors.finishes _ _) fun _ => pairs_pure rfl

private theorem pairs_retry (p : Progress) (first : Outcome) (healed : HealedLocator) :
    Pairs R Eq (r.retry p first healed)
      ((r.through directory file look).retry p first healed) := by
  refine mirrors.pairs_guarded _ ?_ fun second => ?_
  · exact pairs_then mirrors.pairs_ensureActive fun _ => mirrors.looks _ _
  · split
    · exact pairs_then (mirrors.logs _ _) fun _ => mirrors.pairs_close _ _ _
    · exact pairs_then (mirrors.logs _ _) fun _ => mirrors.pairs_close _ _ _

variable [Parallel T]

private theorem pairs_pollOnce {deadline deadline' : τ} (deadlines : T deadline deadline') :
    Pairs R Eq (r.pollOnce deadline) ((r.through directory file look).pollOnce deadline') := by
  refine pairs_then mirrors.pairs_ensureActive fun _ => ?_
  refine pairs_then (mirrors.attuned.pairs_timeUntil deadlines) fun remaining => ?_
  split
  · exact pairs_pure rfl
  · exact mirrors.asks _ (.poll remaining)

private theorem pairs_poll : Pairs R Eq r.poll (r.through directory file look).poll := by
  refine pairs_bind mirrors.attuned.pairs_clock fun now now' clocks => ?_
  refine pairs_bind (Attuned.pairs_sum clocks _) fun deadline deadline' deadlines => ?_
  have once := mirrors.pairs_pollOnce deadlines
  exact pairs_then (mirrors.attuned.pairs_wait once _ _ _ _) fun ending => pairs_pure rfl

theorem pairs_execute (p : Progress) (first : Outcome) (script : String) :
    Pairs R Eq (r.execute p first script)
      ((r.through directory file look).execute p first script) := by
  refine mirrors.pairs_guarded _ (mirrors.pairs_runScript script) fun _ => ?_
  refine mirrors.pairs_guarded _ mirrors.pairs_poll fun healed => ?_
  cases healed with
  | none => exact mirrors.pairs_close _ _ _
  | some healed => exact mirrors.pairs_retry _ _ _

private theorem pairs_heal (p : Progress) (first : Outcome) :
    Pairs R Eq (r.heal p first) ((r.through directory file look).heal p first) := by
  refine pairs_then (mirrors.logs _ _) fun _ => ?_
  refine mirrors.pairs_guarded _ (mirrors.asks _ .heal) fun answer => ?_
  split
  · exact mirrors.pairs_close _ _ _
  · exact mirrors.pairs_execute _ _ _

/-- Two runs that mirror each other end in the same way. -/
theorem pairs_start : Pairs R Eq r.start (r.through directory file look).start := by
  refine mirrors.pairs_guarded _ (mirrors.looks _ _) fun first => ?_
  dsimp only
  split
  · exact mirrors.pairs_guarded _ mirrors.pairs_logUsage fun _ => mirrors.pairs_close _ _ _
  · change Pairs _ _ (if r.mayHeal then _ else _) (if r.mayHeal then _ else _)
    split
    · exact mirrors.pairs_heal _ _
    · exact mirrors.pairs_close _ _ _

end Run.Mirrors

end Healing

end LocatorHealing
