import LocatorHealing.Proofs.Action.Traffic
import LocatorHealing.Proofs.Healing.Frame
import LocatorHealing.Proofs.Healing.Parts
import LocatorHealing.Proofs.Session.Driver
import LocatorHealing.Session.Lookup

set_option autoImplicit false
set_option relaxedAutoImplicit false

/-!
What commands to sessions and lookups in them leave as it was. A lookup makes calls, writes to the
log and may write audit entries, whichever middlewares it passes through.
-/

namespace LocatorHealing.Session

open LocatorHealing.Action (Keeps)

variable {ε τ : Type} [Outside ε τ] [TimeScale τ] {R : World ε τ → World ε τ → Prop} {warns : Prop}
  (hR : Sturdy R warns)
include hR

theorem keeps_execute (key script : String) (arguments : List Json) :
    Keeps R (execute key script arguments : Action ε τ Json) :=
  keeps_execute_of hR.refl fun w _ => hR.keeps_call _ w

theorem keeps_installAddon (key path : String) (temporary : Json) :
    Keeps R (installAddon key path temporary : Action ε τ Json) := by
  refine hR.keeps_bind (hR.keeps_session _) fun s => ?_
  split
  · exact hR.keeps_call _
  · exact hR.keeps_raise _

theorem keeps_driverLookup (key : String) (strategy value : Json) :
    Keeps R (driverLookup key strategy value : Action ε τ Outcome) :=
  keeps_driverLookup_of hR.refl fun w _ => hR.keeps_call _ w

theorem keeps_quit (key : String) : Keeps R (quit key : Action ε τ Unit) :=
  hR.keeps_bind (hR.closes key) fun _ => hR.keeps_call _

theorem acts_of_sturdy {r : Healing.Run ε τ}
    (looks : ∀ strategy value, Keeps R (r.look strategy value)) : r.Acts R warns :=
  .of_asks hR.toFrame looks (fun inquiry _ => hR.keeps_ask _ inquiry)
    (fun script => keeps_execute hR r.session script []) fun _ => hR.keeps_note _

section Lookup

variable {key : String} {look : Json → Json → Action ε τ Outcome}

omit hR [Outside ε τ] [TimeScale τ] in
private theorem keeps_settled (hR : Frame R warns) {x : Action ε τ Outcome} (looks : Keeps R x) :
    Keeps R (Outcome.settled x) := by
  refine hR.keeps_bind (Frame.keeps_attempt looks) fun found => ?_
  cases found with | _ => exact hR.keeps_pure _

omit hR in
theorem keeps_healing_of (hR : Frame R warns) {h : Healing ε τ} {attempt : LocatorAttempt}
    {options : HealingOptions} {w : World ε τ}
    (runs : ∀ r, h.runOf look key attempt options = .ok r → R w (r.start.run w).2) :
    R w ((h.run look key attempt options).run w).2 := by
  cases ready : h.runOf look key attempt options with
  | error fault =>
    rw [Healing.run_refused ready]
    exact hR.refl w
  | ok r =>
    have ran := runs r ready
    rcases ended : r.start.run w with ⟨fault | e, v⟩
    · rw [ended] at ran
      rwa [Healing.run_raised ready ended]
    · rw [ended] at ran
      rwa [Healing.run_ended ready ended]

omit hR in
/-- To hand a lookup to a protocol keeps a frame that the protocol keeps in the session as it is
then. -/
theorem keeps_protocol_of (hR : Frame R warns)
    (looks : ∀ strategy value, Keeps R (look strategy value)) {p : Protocol ε τ}
    {options : HealingOptions} {strategy value : Json}
    (runs : ∀ w : World ε τ, R w
      ((p.run look key ⟨strategy, value, (w.sessions key).sessionId⟩ options).run w).2) :
    Keeps R (p.intercept options key look strategy value) := by
  intro w
  refine hR.trans (runs w) ?_
  rw [Protocol.intercept, Action.run_bind_ok (a := w.sessions key) (v := w) rfl,
    Action.run_bind_ok (Action.run_attempt _ _)]
  cases ((p.run look key ⟨strategy, value, (w.sessions key).sessionId⟩ options).run w).1 with
  | ok outcome => exact hR.refl _
  | error fault =>
    exact hR.keeps_bind (hR.keeps_log _ _) (fun _ => keeps_settled hR (looks _ _)) _

omit hR [Outside ε τ] [TimeScale τ] in
theorem keeps_behaviour (hR : Frame R warns)
    (looks : ∀ strategy value, Keeps R (look strategy value)) (b : Behaviour)
    (strategy value : Json) :
    Keeps R (b.apply look strategy value) := by
  cases b with
  | raise fault => exact hR.keeps_raise _
  | fail fault => exact hR.keeps_pure _
  | redirect other lead => exact hR.keeps_bind (hR.keeps_ofExcept _) fun _ => looks _ _
  | element => exact hR.keeps_pure _
  | twice => exact hR.keeps_bind (looks _ _) fun _ => looks _ _
  | pass => exact looks _ _

omit hR in
/-- A lookup keeps a frame that the driver's own lookup keeps, and each protocol that it is handed
to. -/
theorem keeps_lookupThrough_of (hR : Frame R warns) {middlewares : List (String × Middleware ε τ)}
    (finds : ∀ strategy value, Keeps R (driverLookup key strategy value : Action ε τ Outcome))
    (noted : ∀ name strategy value,
      Keeps R (Action.note (.middleware name strategy value) : Action ε τ Unit))
    (handed : ∀ name p options, (name, Middleware.intercepting p options) ∈ middlewares →
      ∀ look : Json → Json → Action ε τ Outcome, (∀ strategy value, Keeps R (look strategy value)) →
        ∀ strategy value, Keeps R (p.intercept options key look strategy value))
    (strategy value : Json) : Keeps R (lookupThrough key middlewares strategy value) := by
  induction middlewares generalizing strategy value with
  | nil => exact finds strategy value
  | cons p rest ih =>
    obtain ⟨name, m⟩ := p
    have behind := ih fun name p options there =>
      handed name p options (List.mem_cons_of_mem _ there)
    cases m with
    | intercepting protocol options =>
      exact handed name protocol options List.mem_cons_self _ behind _ _
    | custom behaviour =>
      exact hR.keeps_bind (noted _ _ _) fun _ => keeps_behaviour hR behind behaviour _ _

variable (files : ∀ (w : World ε τ) files, R w { w with files })
include files

private theorem keeps_protocol (looks : ∀ strategy value, Keeps R (look strategy value))
    (p : Protocol ε τ) (options : HealingOptions) (strategy value : Json)
    (wanted : options.selfHeal = true → warns := by exact fun _ => trivial) :
    Keeps R (p.intercept options key look strategy value) := by
  refine keeps_protocol_of hR.toFrame looks fun w => ?_
  cases p with
  | failing fault => exact hR.refl w
  | healing h =>
    refine keeps_healing_of hR.toFrame fun r ready => ?_
    obtain ⟨report, -, rfl⟩ := Healing.runOf_ok ready
    have within : Healing.Run.Within
        { healing := h, options, session := key, look, report
          attempt := ⟨strategy, value, (w.sessions key).sessionId⟩ } R warns :=
      { acts_of_sturdy hR looks with
        audits := Healing.Run.auditKeeps_of hR.toFrame (fun _ _ w => hR.outside w _) files
        wanted }
    exact within.start w

theorem keeps_lookupThrough (middlewares : List (String × Middleware ε τ)) (strategy value : Json)
    (wanted : ∀ name p options, (name, Middleware.intercepting p options) ∈ middlewares →
      options.selfHeal = true → warns := by exact fun _ _ _ _ _ => trivial) :
    Keeps R (lookupThrough key middlewares strategy value) :=
  keeps_lookupThrough_of hR.toFrame (keeps_driverLookup hR key) (fun _ _ _ => hR.keeps_note _)
    (fun name p options there _ looks strategy value =>
      keeps_protocol hR files looks p options strategy value (wanted name p options there)) _ _

omit hR files in
theorem keeps_lookup (hR : Sturdy R) (files : ∀ (w : World ε τ) files, R w { w with files })
    (strategy value : Json) : Keeps R (lookup key strategy value) :=
  hR.keeps_bind (hR.keeps_session _) fun _ => keeps_lookupThrough hR files _ _ _

end Lookup

omit [Outside ε τ] [TimeScale τ] hR in
theorem keeps_intercept (hR : Frame R warns) {key : String} {p : Protocol ε τ}
    {options : HealingOptions}
    (registers : Keeps R (Action.modifySession key fun s =>
      s.register interceptorName (.intercepting p options))) :
    Keeps R (intercept key p options : Action ε τ Bool) := by
  refine hR.keeps_bind (x := addMiddleware key interceptorName _) ?_ fun installed => ?_
  · refine hR.keeps_bind (hR.keeps_session _) fun s => ?_
    exact hR.keeps_bind registers fun _ => hR.keeps_pure _
  · cases installed with
    | true => exact hR.keeps_pure _
    | false =>
      refine hR.keeps_bind (hR.keeps_session _) fun s => ?_
      exact hR.keeps_bind (hR.keeps_log _ _) fun _ => hR.keeps_pure _

end LocatorHealing.Session
