import Mathlib.Data.List.Forall2
import LocatorHealing.Proofs.Healing.Parts
import LocatorHealing.Proofs.Healing.Pair
import LocatorHealing.Session.Lookup

set_option autoImplicit false
set_option relaxedAutoImplicit false

/-!
Two lookups side by side, in one session with the same middlewares, whose healing may be audited in
different ways. If the commands to the session come to the same, and so does all that is asked for
it, then the lookups do.
-/

namespace LocatorHealing

open LocatorHealing.Action (Pairs pairs_pure pairs_raise pairs_ofExcept pairs_read pairs_bind
  pairs_then pairs_attempt)

variable {ε τ : Type}

def Inquiry.sessionId? : Inquiry τ → Option Json
  | .init _ _ _ _ => none
  | .token sessionId _ _ => some sessionId
  | .log report => some report.sessionId
  | .heal report => some report.sessionId
  | .poll _ sessionId _ _ => some sessionId

theorem Healing.Run.Asks.sessionId {r : Healing.Run ε τ} {inquiry : Inquiry τ}
    (asks : r.Asks inquiry) : inquiry.sessionId? = some r.report.sessionId := by
  cases asks with | _ => rfl

theorem Healing.sessionId_of_report {h : Healing ε τ} {attempt : LocatorAttempt}
    {report : LookupReport} (reported : h.report attempt = .ok report) :
    report.sessionId = attempt.sessionId := by
  unfold Healing.report at reported
  cases strategy : Locator.escaped attempt.strategy with
  | error fault =>
    rw [strategy] at reported
    cases reported
  | ok strategy' =>
    cases value : Locator.escaped attempt.value with
    | error fault =>
      rw [strategy, value] at reported
      cases reported
    | ok value' =>
      rw [strategy, value] at reported
      cases reported
      rfl

section Alike

variable (P : Healing ε τ → Prop) (directory : Option String) (file : Option FilePath)

/-- One middleware twice, but for how its healing is audited. -/
inductive Middleware.Alike : Middleware ε τ → Middleware ε τ → Prop where
  | healing {h : Healing ε τ} (fits : P h) (options : HealingOptions) :
    Alike (.intercepting (.healing h) options)
      (.intercepting (.healing (h.audited directory file)) options)
  | failing (fault : Fault) (options : HealingOptions) :
    Alike (.intercepting (.failing fault) options) (.intercepting (.failing fault) options)
  | custom (b : Behaviour) : Alike (.custom b) (.custom b)

/-- One session twice, but for how the healing of its lookups is audited. -/
structure Session.Alike (s t : Session ε τ) : Prop where
  rest : t = { s with middlewares := t.middlewares }
  middlewares : List.Forall₂ (fun p q => q.1 = p.1 ∧ p.2.Alike P directory file q.2)
    s.middlewares t.middlewares

variable {P directory file}

theorem Session.Alike.isActive {s t : Session ε τ} (alike : s.Alike P directory file t) :
    t.isActive = s.isActive := by
  rw [alike.rest]
  rfl

theorem Session.Alike.sessionId {s t : Session ε τ} (alike : s.Alike P directory file t) :
    t.sessionId = s.sessionId := by
  rw [alike.rest]

theorem Session.Alike.name {s t : Session ε τ} (alike : s.Alike P directory file t) :
    t.name = s.name := by
  rw [alike.rest]

end Alike

variable [Outside ε τ] [TimeScale τ]

/-- All that is done for a session comes to the same in related worlds. -/
structure Session.Mirrors (T : τ → τ → Prop) (R : World ε τ → World ε τ → Prop) (key : String)
    (P : Healing ε τ → Prop) (directory : Option String) (file : Option FilePath)
    (known : Json → Prop) : Prop where
  attuned : Attuned T R
  logs : ∀ level message, Pairs R Eq (Action.log level message) (Action.log level message)
  sessions : ∀ {w v}, R w v → (w.sessions key).Alike P directory file (v.sessions key)
  knows : ∀ {w v}, R w v → known (w.sessions key).sessionId
  finds : ∀ strategy value, Pairs R Eq (Action.perform (findCommand key strategy value))
    (Action.perform (findCommand key strategy value))
  scripts : ∀ script, Pairs R Eq (Action.perform (scriptCommand key script []))
    (Action.perform (scriptCommand key script []))
  asks : ∀ h, P h → ∀ (inquiry : Inquiry τ) sessionId, inquiry.sessionId? = some sessionId →
    known sessionId →
    Pairs R Eq (Action.ask h.service inquiry) (Action.ask h.service inquiry)
  finishes : ∀ (r : Healing.Run ε τ) look p outcome, P r.healing →
    Pairs R Eq (r.finish p outcome) ((r.through directory file look).finish p outcome)

namespace Session.Mirrors

variable {T : τ → τ → Prop} {R : World ε τ → World ε τ → Prop} {key : String}
  {P : Healing ε τ → Prop} {directory : Option String} {file : Option FilePath}
  {known : Json → Prop} (mirrors : Session.Mirrors T R key P directory file known)
include mirrors

theorem pairs_session :
    Pairs R (fun s t => s.Alike P directory file t ∧ known s.sessionId)
      (Action.session key) (Action.session key) :=
  pairs_read fun _ _ worlds => ⟨mirrors.sessions worlds, mirrors.knows worlds⟩

theorem pairs_execute (script : String) :
    Pairs R Eq (Session.execute key script []) (Session.execute key script []) := by
  refine pairs_bind mirrors.pairs_session fun s t ⟨alike, _⟩ => ?_
  rw [alike.isActive, alike.name]
  split
  · exact mirrors.scripts script
  · exact pairs_raise _

private theorem pairs_driverLookup (strategy value : Json) :
    Pairs R Eq (driverLookup key strategy value) (driverLookup key strategy value) := by
  refine pairs_bind mirrors.pairs_session fun s t ⟨alike, _⟩ => ?_
  rw [alike.isActive]
  split
  · refine pairs_then (pairs_attempt (mirrors.finds strategy value)) fun found => ?_
    cases found with
    | ok element => exact pairs_pure rfl
    | error fault =>
      dsimp only
      split
      · exact pairs_pure rfl
      · exact pairs_raise fault
  · exact pairs_pure rfl

variable {look look' : Json → Json → Action ε τ Outcome}
  (looks : ∀ strategy value, Pairs R Eq (look strategy value) (look' strategy value))
include looks

private theorem mirrors_run {r : Healing.Run ε τ} (here : r.session = key) (fits : P r.healing)
    (knows : known r.report.sessionId) (through : r.look = look) :
    r.Mirrors T R directory file look' where
  attuned := mirrors.attuned
  logs := mirrors.logs
  sessions w v worlds := by
    have alike := mirrors.sessions worlds
    rw [here]
    exact ⟨alike.isActive, alike.sessionId⟩
  scripts script := here ▸ mirrors.pairs_execute script
  asks inquiry asks := mirrors.asks _ fits inquiry _ asks.sessionId knows
  looks strategy value := through ▸ looks strategy value
  finishes p outcome := mirrors.finishes r look' p outcome fits

variable [Parallel T]

private theorem pairs_run {h : Healing ε τ} (fits : P h) {attempt : LocatorAttempt}
    (knows : known attempt.sessionId) (options : HealingOptions) :
    Pairs R Eq (h.run look key attempt options)
      ((h.audited directory file).run look' key attempt options) := by
  unfold Healing.run Healing.runOf
  rw [show (h.audited directory file).report attempt = h.report attempt from rfl]
  cases reported : h.report attempt with
  | error fault => exact pairs_raise fault
  | ok report =>
    have about := Healing.sessionId_of_report reported
    let r : Healing.Run ε τ := { healing := h, options, session := key, attempt, report, look }
    have run : r.Mirrors T R directory file look' :=
      mirrors.mirrors_run looks rfl fits (about ▸ knows) rfl
    have ends : Pairs R Eq (r.start >>= fun e => pure e.outcome)
        ((r.through directory file look').start >>= fun e => pure e.outcome) :=
      pairs_then run.pairs_start fun _ => pairs_pure rfl
    exact ends

omit [Parallel T] in
theorem pairs_intercept {p p' : Protocol ε τ} {options : HealingOptions}
    (runs : ∀ attempt, known attempt.sessionId → Pairs R Eq (p.run look key attempt options)
      (p'.run look' key attempt options)) (strategy value : Json) :
    Pairs R Eq (p.intercept options key look strategy value)
      (p'.intercept options key look' strategy value) := by
  have settles : Pairs R Eq (Outcome.settled (look strategy value))
      (Outcome.settled (look' strategy value)) := by
    refine pairs_then (pairs_attempt (looks strategy value)) fun found => ?_
    cases found with | _ => exact pairs_pure rfl
  refine pairs_bind mirrors.pairs_session fun s t ⟨alike, knows⟩ => ?_
  rw [alike.sessionId]
  refine pairs_then (pairs_attempt (runs ⟨strategy, value, s.sessionId⟩ knows)) fun looked => ?_
  cases looked with
  | ok outcome => exact pairs_pure rfl
  | error fault => exact pairs_then (mirrors.logs _ _) fun _ => settles

omit [Outside ε τ] [TimeScale τ] [Parallel T] mirrors in
private theorem pairs_behaviour (b : Behaviour) (strategy value : Json) :
    Pairs R Eq (b.apply look strategy value) (b.apply look' strategy value) := by
  cases b with
  | raise fault => exact pairs_raise fault
  | fail fault => exact pairs_pure rfl
  | redirect other lead => exact pairs_then (pairs_ofExcept (.refl _)) fun _ => looks _ _
  | element => exact pairs_pure rfl
  | twice => exact pairs_then (looks _ _) fun _ => looks _ _
  | pass => exact looks _ _

private theorem pairs_apply {m m' : Middleware ε τ} (alike : m.Alike P directory file m')
    (name : String) (strategy value : Json) :
    Pairs R Eq (m.apply name key look strategy value)
      (m'.apply name key look' strategy value) := by
  cases alike with
  | healing fits options =>
    refine mirrors.pairs_intercept looks (fun attempt knows => ?_) strategy value
    exact mirrors.pairs_run looks fits knows options
  | failing fault options =>
    exact mirrors.pairs_intercept looks (fun _ _ => pairs_raise fault) strategy value
  | custom b =>
    exact pairs_then (mirrors.attuned.notes _) fun _ => pairs_behaviour looks b strategy value

omit looks

private theorem pairs_lookupThrough {middlewares middlewares' : List (String × Middleware ε τ)}
    (alike : List.Forall₂ (fun p q => q.1 = p.1 ∧ p.2.Alike P directory file q.2)
      middlewares middlewares') (strategy value : Json) :
    Pairs R Eq (lookupThrough key middlewares strategy value)
      (lookupThrough key middlewares' strategy value) := by
  induction alike generalizing strategy value with
  | nil => exact mirrors.pairs_driverLookup strategy value
  | @cons p q _ _ first _ ih =>
    obtain ⟨name, m⟩ := p
    obtain ⟨name', m'⟩ := q
    obtain ⟨rfl, likewise⟩ := first
    exact mirrors.pairs_apply ih likewise name' strategy value

theorem pairs_lookup (strategy value : Json) :
    Pairs R Eq (lookup key strategy value) (lookup key strategy value) := by
  refine pairs_bind mirrors.pairs_session fun s t ⟨alike, _⟩ => ?_
  exact mirrors.pairs_lookupThrough (List.rel_reverse alike.middlewares) strategy value

end Session.Mirrors

end LocatorHealing
