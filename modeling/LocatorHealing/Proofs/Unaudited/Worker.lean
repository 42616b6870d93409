import LocatorHealing.Proofs.Action.Result
import LocatorHealing.Proofs.Launch.Handover
import LocatorHealing.Proofs.Unaudited.Lookup

set_option autoImplicit false
set_option relaxedAutoImplicit false

/-!
Workers with and without auditing. Where its audit directory can be made, a worker starts just as it
does without one, and sets up the same sessions with the same requests and commands.
-/

namespace LocatorHealing

open LocatorHealing.Action (Pairs EndsAlike Gives pairs_pure pairs_raise pairs_ofExcept pairs_read
  pairs_modify pairs_bind pairs_then pairs_attempt pairs_each gives_pure gives_read gives_modify
  gives_log gives_bind gives_attempt)
open World (Audited)

variable {ε τ : Type}

section Register

variable {s : Session ε τ} {name : String} {m : Middleware ε τ}

private theorem Session.hasMiddleware_unaudited (s : Session ε τ) (name : String) :
    s.unaudited.hasMiddleware name = s.hasMiddleware name := by
  simp only [hasMiddleware, unaudited, List.any_map, Function.comp_def]

private theorem Session.needsCompanion_unaudited (s : Session ε τ) :
    s.unaudited.needsCompanion = s.needsCompanion := rfl

private theorem Session.register_unaudited (s : Session ε τ) (name : String) (m : Middleware ε τ) :
    s.unaudited.register name m.unaudited = (s.register name m).unaudited := by
  unfold register
  rw [hasMiddleware_unaudited]
  split
  · rfl
  · simp only [unaudited, List.map_append, List.map_cons, List.map_nil]

private theorem Session.belong_register {service : Service ε τ} {settings : Settings τ}
    (belong : ∀ p ∈ s.middlewares, p.2.Belongs service settings)
    (belongs : m.Belongs service settings) (name : String) :
    ∀ p ∈ (s.register name m).middlewares, p.2.Belongs service settings := by
  intro p there
  unfold register at there
  split at there
  · exact belong p there
  · rcases List.mem_append.1 there with before | last
    · exact belong p before
    · rw [List.mem_singleton.1 last]
      exact belongs

section Pairs

variable {same : ε → ε → Prop} {service : Service ε τ} {settings : Settings τ} {key : String}

theorem Session.pairs_addMiddleware (belongs : m.Belongs service settings) (name : String) :
    Pairs (Audited same service settings) Eq (addMiddleware key name m)
      (addMiddleware key name m.unaudited) := by
  refine pairs_inSession fun s => ?_
  refine pairs_then (pairs_modifySession key (fun t => t.register_unaudited name m)
    fun t belong => belong_register belong belongs name) fun _ => ?_
  rw [hasMiddleware_unaudited]
  exact pairs_pure rfl

theorem Session.pairs_intercept [TimeScale τ] {p : Protocol ε τ}
    (belongs : p.Belongs service settings) (options : HealingOptions) :
    Pairs (Audited same service settings) Eq (intercept key p options)
      (intercept key p.unaudited options) := by
  refine pairs_then (pairs_addMiddleware (m := .intercepting p options) belongs _)
    fun installed => ?_
  cases installed with
  | true => exact pairs_pure rfl
  | false =>
    refine pairs_inSession fun s => ?_
    exact pairs_then (twins_audited.pairs_log _ _ _ _) fun _ => pairs_pure rfl

end Pairs

end Register

namespace Worker

def unaudited (k : Worker ε τ) : Worker ε τ :=
  { k with settings := k.settings.unaudited, auditFile := none }

/-- A worker that was started with a service and settings. -/
structure Belongs (service : Service ε τ) (settings : Settings τ) (k : Worker ε τ) : Prop where
  service : k.service = service
  auditFile : k.auditFile = settings.auditFile?
  settings : k.settings = settings

section Start

variable {same : ε → ε → Prop} (service : Service ε τ) (settings : Settings τ)

private theorem pairs_authOfEnvironment [TimeScale τ] :
    Pairs (Audited same service settings) Eq authOfEnvironment authOfEnvironment := by
  refine pairs_then (pairs_read fun _ _ worlds => worlds.environment) fun environment => ?_
  dsimp only
  split
  · exact pairs_pure rfl
  · exact pairs_then (twins_audited.pairs_log _ _ _ _) fun _ => pairs_pure rfl

private theorem pairs_openAudit :
    Pairs (Audited same service settings)
      (fun file file' => file = settings.auditFile? ∧ file' = none)
      (openAudit settings) (openAudit settings.unaudited) := by
  intro w v worlds
  unfold openAudit Settings.auditFile?
  cases audits : settings.auditDirectory.filter (· ≠ "") with
  | none => exact ⟨.ok ⟨rfl, rfl⟩, worlds⟩
  | some directory =>
    obtain ⟨made, makes⟩ := worlds.files.makes directory audits
    have opened : (Audit.openIn directory).run w =
        (.ok (Audit.fileIn directory), { w with files := made }) := by
      simp only [Audit.openIn, Action.run_bind, Action.run_read, Action.andThen_ok,
        Action.run_ofExcept, makes, Action.run_modify, Action.run_pure]
    dsimp only
    rw [Action.run_bind_ok opened]
    exact ⟨.ok ⟨rfl, rfl⟩, { worlds with files := worlds.files.made audits makes }⟩

theorem pairs_ofEnvironment [TimeScale τ] :
    Pairs (Audited same service settings)
      (fun k k' => k.Belongs service settings ∧ k' = k.unaudited)
      (ofEnvironment service settings) (ofEnvironment service settings.unaudited) := by
  refine pairs_then (pairs_authOfEnvironment service settings) fun auth => ?_
  rw [create_eq, create_eq]
  refine pairs_bind (pairs_openAudit service settings) fun file _ ⟨audits, without⟩ => ?_
  subst without
  refine pairs_then (pairs_modify fun _ _ worlds => { worlds with }) fun _ => ?_
  exact pairs_pure ⟨⟨rfl, audits, rfl⟩, rfl⟩

theorem gives_ofEnvironment_unaudited :
    Gives (fun _ => True) (ofEnvironment service settings.unaudited : Action ε τ _) := by
  refine gives_bind (P := fun _ => True) ?_ fun auth _ => ?_
  · refine gives_bind (gives_read _) fun environment _ => ?_
    dsimp only
    split
    · exact gives_pure trivial
    · exact gives_bind (gives_log _ _) fun _ _ => gives_pure trivial
  · rw [create_eq]
    refine gives_bind (P := fun _ => True) (gives_pure trivial) fun _ _ => ?_
    exact gives_bind (gives_modify _) fun _ _ => gives_pure trivial

end Start

section SelfHeal

variable [Outside ε τ] [TimeScale τ] {same : ε → ε → Prop} {service : Service ε τ}
  {settings : Settings τ} (overlooks : Overlooks same service settings)

include overlooks

private theorem pairs_installCompanion (key : String) :
    Pairs (Audited same service settings) Eq (Session.installCompanion settings key)
      (Session.installCompanion settings.unaudited key) := by
  have told (level : Level) (message message' : Session ε τ → String) (b : Bool) :
      Pairs (Audited same service settings) Eq (do
        let s ← Action.session key
        Action.log level (message s)
        return b) (do
        let s ← Action.session key
        Action.log level (message' s)
        return b) :=
    pairs_inSession fun _ =>
      pairs_then (twins_audited.pairs_log _ _ _ _) fun _ => pairs_pure rfl
  refine pairs_bind (pairs_read (V := fun files files' =>
    Session.companionFile settings files = Session.companionFile settings files')
    fun _ _ worlds => worlds.files.companion) fun files files' companion => ?_
  rw [companion]
  refine pairs_then (pairs_ofExcept (.refl _)) fun file => ?_
  cases file with
  | none => exact told _ _ _ _
  | some path =>
    refine pairs_then (pairs_attempt (Session.pairs_installAddon overlooks _ _ _)) fun done => ?_
    cases done with
    | ok _ => exact told _ _ _ _
    | error fault => exact told _ _ _ _

variable {k : Worker ε τ} (belongs : k.Belongs service settings) (options : HealingOptions)
include belongs

private theorem pairs_prepare (auth : AuthResult) (key : String) :
    Pairs (Audited same service settings) Eq (k.prepare auth options key)
      (k.unaudited.prepare auth options key) := by
  obtain ⟨rfl, audits, rfl⟩ := belongs
  refine pairs_inSession fun s => pairs_then ?_ fun _ => pairs_inSession fun s => ?_
  · exact twins_audited.pairs_ask (reacts_audited (overlooks.inquiries
      (.token s.sessionId auth.sessionToken k.settings.serviceUrl)))
  · have routes : Pairs (Audited same k.service k.settings) Eq
        (Session.intercept key (.healing (k.healing auth)) options)
        (Session.intercept key (.healing (k.unaudited.healing auth)) options) :=
      Session.pairs_intercept (p := .healing (k.healing auth)) ⟨rfl, audits⟩ options
    rw [Session.needsCompanion_unaudited]
    split
    · exact pairs_then (pairs_installCompanion overlooks key) fun _ => routes
    · exact routes

private theorem pairs_setupSession (key : String) :
    Pairs (Audited same service settings) Eq (k.setupSession options key)
      (k.unaudited.setupSession options key) := by
  refine pairs_inSession fun s => ?_
  refine pairs_then (pairs_ofExcept (.refl _)) fun supported => ?_
  cases supported with
  | false => exact pairs_pure rfl
  | true =>
    have without : k.unaudited.auth = k.auth := rfl
    rw [if_pos rfl, if_pos rfl, without]
    cases k.auth with
    | none =>
      dsimp only
      split
      · exact pairs_then (twins_audited.pairs_log _ _ _ _) fun _ => pairs_pure rfl
      · exact pairs_pure rfl
    | some auth =>
      dsimp only
      split
      · exact pairs_prepare overlooks belongs options auth key
      · exact pairs_pure rfl

private theorem pairs_setupAll (sessions : List (String × String)) :
    Pairs (Audited same service settings) Eq (k.setupAll options sessions)
      (k.unaudited.setupAll options sessions) := by
  refine pairs_each fun p _ => ?_
  refine pairs_then (pairs_attempt (pairs_setupSession overlooks belongs options p.2))
    fun done => ?_
  cases done with
  | ok _ => exact pairs_pure rfl
  | error fault => exact twins_audited.pairs_log _ _ _ _

private theorem pairs_setupTarget (capabilities : Json) (target : Target) :
    Pairs (Audited same service settings) Eq (k.setupTarget options capabilities target)
      (k.unaudited.setupTarget options capabilities target) := by
  cases target with
  | one session =>
    exact pairs_then (pairs_setupSession overlooks belongs options session) fun _ => pairs_pure rfl
  | named sessions =>
    exact pairs_then (pairs_ofExcept (.refl _)) fun chosen =>
      pairs_setupAll overlooks belongs options chosen

/-- Healing is set up in the same way with and without auditing. -/
theorem pairs_selfHeal (capabilities : Json) (target : Target) :
    Pairs (Audited same service settings) Eq (k.selfHeal options capabilities target)
      (k.unaudited.selfHeal options capabilities target) := by
  refine pairs_then (pairs_attempt (pairs_setupTarget overlooks belongs options capabilities
    target)) fun done => ?_
  cases done with
  | ok _ => exact pairs_pure rfl
  | error fault =>
    dsimp only
    split
    · exact twins_audited.pairs_log _ _ _ _
    · exact twins_audited.pairs_log _ _ _ _

end SelfHeal

end Worker

end LocatorHealing
