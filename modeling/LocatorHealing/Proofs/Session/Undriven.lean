import LocatorHealing.Proofs.Session.Doings
import LocatorHealing.Proofs.Session.Pair

set_option autoImplicit false
set_option relaxedAutoImplicit false

/-!
No deal drives a session that has gone. Set-ups and lookups unfold into doings: commands to the
driver and polls are preceded by a look at the session, and nothing happens between that look and
the doing. A poll goes out under the name that the session had when its lookup began, and that it
still has as long as it is there.
-/

namespace LocatorHealing

open LocatorHealing.Action (Keeps)

variable {ε τ : Type} [Outside ε τ] [TimeScale τ]

/-- Doings lead from one world to another, and drive no session that has gone by then. -/
def World.Unfolds (allowed : Doing ε τ → Prop) (w v : World ε τ) : Prop :=
  ∃ doings, Doing.course w doings = v ∧ Doing.Sound allowed w doings

section Unfolds

variable {allowed : Doing ε τ → Prop} {u v w : World ε τ}

private theorem World.Unfolds.of_doing {d : Doing ε τ} (here : allowed d) (heeds : d.Heeds w) :
    w.Unfolds allowed (d.after w) :=
  ⟨[d], rfl, ⟨here, heeds⟩, trivial⟩

theorem World.Unfolds.refl (w : World ε τ) : w.Unfolds allowed w :=
  ⟨[], rfl, trivial⟩

theorem World.Unfolds.trans (first : u.Unfolds allowed v) (second : v.Unfolds allowed w) :
    u.Unfolds allowed w := by
  obtain ⟨before, rfl, sound⟩ := first
  obtain ⟨doings, rfl, sound'⟩ := second
  exact ⟨before ++ doings, Doing.course_append _ _ _, Doing.sound_append.2 ⟨sound, sound'⟩⟩

theorem World.Unfolds.ages (unfolds : w.Unfolds allowed v) : w.Ages v := by
  obtain ⟨doings, rfl, -⟩ := unfolds
  exact Doing.ages_course w doings

end Unfolds

section Inner

variable {services : Service ε τ → Prop} {allowed : Doing ε τ → Prop}
  (inner : ∀ d : Doing ε τ, d.Inner services → allowed d)
include inner

open World (Unfolds)

private theorem frame_unfolds : Frame (Unfolds allowed) where
  refl := .refl
  trans := .trans
  log _ log _ := .of_doing (d := .tell log) (inner _ trivial) fun _ => False.elim
  clock _ clock := .of_doing (d := .tick clock) (inner _ trivial) fun _ => False.elim

private theorem unfolds_ask {service : Service ε τ} (serves : services service)
    {inquiry : Inquiry τ}
    (other : ¬inquiry.IsPoll) : Keeps (Unfolds allowed) (Action.ask service inquiry) :=
  fun _ => .of_doing (d := .ask service inquiry) (inner _ ⟨serves, other⟩) fun _ => False.elim

private theorem unfolds_note {event : Event τ} (idle : event.IsIdle) :
    Keeps (Unfolds allowed) (Action.note event : Action ε τ Unit) :=
  fun _ => .of_doing (d := .note event) (inner _ idle) fun _ => False.elim

private theorem unfolds_driverLookup (key : String) (strategy value : Json) :
    Keeps (Unfolds allowed) (Session.driverLookup key strategy value : Action ε τ Outcome) :=
  Session.keeps_driverLookup_of .refl fun _ active =>
    .of_doing (d := .find key strategy value) (inner _ trivial) fun _ same => same ▸ active

private theorem unfolds_execute (key script : String) (arguments : List Json) :
    Keeps (Unfolds allowed) (Session.execute key script arguments : Action ε τ Json) :=
  Session.keeps_execute_of .refl fun _ active =>
    .of_doing (d := .script key script arguments) (inner _ trivial) fun _ same => same ▸ active

private theorem unfolds_installAddon (key path : String) (temporary : Json) :
    Keeps (Unfolds allowed) (Session.installAddon key path temporary : Action ε τ Json) := by
  have hR := frame_unfolds inner
  refine hR.keeps_bind (hR.keeps_session _) fun s => ?_
  split
  · exact fun _ =>
      .of_doing (d := .install key path temporary) (inner _ trivial) fun _ => False.elim
  · exact hR.keeps_raise _

private theorem unfolds_audit : Healing.Run.AuditKeeps (Unfolds allowed) :=
  fun file record _ =>
    .of_doing (d := .audit file record) (inner _ trivial) fun _ => False.elim

section Run

variable {r : Healing.Run ε τ} {w : World ε τ}

private theorem frame_since (w : World ε τ) :
    Frame fun v u : World ε τ => w.Ages v → v.Unfolds allowed u where
  refl v _ := .refl v
  trans first second aged :=
    (first aged).trans (second (sturdy_ages.trans aged (first aged).ages))
  log v log logged _ := (frame_unfolds inner).log v log logged
  clock v clock _ := (frame_unfolds inner).clock v clock

/-- A session is polled for only if it is there, and then it has the name that it had when the run
began. -/
private theorem unfolds_pollOnce (serves : services r.healing.service)
    (named : r.report.sessionId = (w.sessions r.session).sessionId) (deadline : τ) :
    Keeps (fun v u : World ε τ => w.Ages v → v.Unfolds allowed u) (r.pollOnce deadline) := by
  intro v aged
  unfold Healing.Run.pollOnce
  cases active : (v.sessions r.session).isActive with
  | false =>
    rw [Action.run_bind_error (Healing.Run.run_ensureActive_inactive active)]
    exact .refl v
  | true =>
    have same : r.report.sessionId = (v.sessions r.session).sessionId :=
      named.trans (aged r.session active).2.symm
    rw [Action.run_bind_ok (Healing.Run.run_ensureActive_active active)]
    obtain ⟨left, timed⟩ : ∃ left, (Action.timeUntil deadline : Action ε τ τ).run v = (left, v) :=
      ⟨_, Action.run_ofExcept v _⟩
    cases left with
    | error fault =>
      rw [Action.run_bind_error timed]
      exact .refl v
    | ok remaining =>
      rw [Action.run_bind_ok timed]
      split
      · exact .refl v
      · rw [same]
        exact .of_doing (d := .poll r.session r.healing.service r.healing.settings.serviceUrl
          r.healing.auth.sessionToken (some remaining)) (inner _ serves) fun _ here => here ▸ active

private theorem unfolds_start (serves : services r.healing.service)
    (looks : ∀ strategy value, Keeps (Unfolds allowed) (r.look strategy value))
    (named : r.report.sessionId = (w.sessions r.session).sessionId) :
    w.Unfolds allowed (r.start.run w).2 := by
  have within : r.Within fun v u : World ε τ => w.Ages v → v.Unfolds allowed u :=
    { frame := frame_since inner w
      looks := fun strategy value v _ => looks strategy value v
      logs := fun v _ => unfolds_ask inner serves id v
      pleads := fun v _ => unfolds_ask inner serves id v
      polls := unfolds_pollOnce inner serves named
      scripts := fun script v _ => unfolds_execute inner r.session script [] v
      sleeps := fun duration v _ =>
        unfolds_note inner (show Event.IsIdle (.slept duration) from trivial) v
      audits := fun file record v _ => unfolds_audit inner file record v }
  exact within.start w (sturdy_ages.refl w)

end Run

private theorem unfolds_lookup {key : String} {w : World ε τ}
    (serves : (w.sessions key).Routed fun p _ => ∀ h, p = .healing h → services h.service)
    (strategy value : Json) :
    w.Unfolds allowed ((Session.lookup key strategy value).run w).2 := by
  have hR := frame_unfolds inner
  refine Session.keeps_lookupThrough_of hR (unfolds_driverLookup inner key)
    (fun name _ _ => unfolds_note inner trivial) ?_ strategy value w
  intro name p options there look looks strategy value
  refine Session.keeps_protocol_of hR looks fun v => ?_
  cases p with
  | failing fault => exact hR.refl v
  | healing h =>
    refine Session.keeps_healing_of hR fun r ready => ?_
    obtain ⟨report, reported, rfl⟩ := Healing.runOf_ok ready
    have served := serves name (.healing h) options (List.mem_reverse.1 there) h rfl
    exact unfolds_start inner served looks (Healing.sessionId_of_report reported)

private theorem unfolds_selfHeal {k : Worker ε τ} {options : HealingOptions}
    (serves : services k.service) (capabilities : Json) (target : Worker.Target) :
    Keeps (Unfolds allowed) (k.selfHeal options capabilities target) := by
  have hR := frame_unfolds inner
  refine Worker.keeps_selfHeal_of hR (fun key => ?_) capabilities target
  refine Worker.keeps_setupSession_of hR fun auth _ => Worker.keeps_prepare hR ?_ ?_ ?_
  · exact fun sessionId token => unfolds_ask inner serves id
  · exact Worker.keeps_installCompanion hR _ _ fun path => unfolds_installAddon inner key path _
  · exact Session.keeps_intercept hR fun _ =>
      .of_doing (d := .register key Session.interceptorName _) (inner _ trivial) fun _ => False.elim

end Inner

/-- What becomes of sessions between set-ups and lookups is a doing of its own. -/
def Doing.ofDeal? : Deal ε τ → Option (Doing ε τ)
  | .quit key => some (.quit key)
  | .lose key => some (.lose key)
  | .meanwhile clock outside => some (.meanwhile clock outside)
  | _ => none

/-- What occurs in a history beside set-ups and lookups: the files that are found, sessions that are
closed or lost, and changes outside. -/
def Doing.Outer (steps : List (FileTree × Deal ε τ)) (d : Doing ε τ) : Prop :=
  ∃ step ∈ steps, d = .arrange step.1 ∨ Doing.ofDeal? step.2 = some d

namespace Deal

/-- The services that lookups were routed to before a history, and those of the workers in it. -/
def InPlay (w : World ε τ) (steps : List (FileTree × Deal ε τ)) (service : Service ε τ) : Prop :=
  (∃ key name h options, (name, .intercepting (.healing h) options) ∈ (w.sessions key).middlewares ∧
    h.service = service) ∨
  ∃ files k options capabilities target, (files, .selfHeal k options capabilities target) ∈ steps ∧
    k.service = service

section History

variable {services : Service ε τ → Prop} {allowed : Doing ε τ → Prop} {w : World ε τ}
  (inner : ∀ d : Doing ε τ, d.Inner services → allowed d)
include inner

private theorem unfolds_after {d : Deal ε τ} (outer : ∀ e, Doing.ofDeal? d = some e → allowed e)
    (uses : ∀ k options capabilities target, d = .selfHeal k options capabilities target →
      services k.service)
    (serves : ∀ key, (w.sessions key).Routed fun p _ => ∀ h, p = .healing h → services h.service) :
    w.Unfolds allowed (d.after w) := by
  cases d with
  | selfHeal k options capabilities target =>
    exact unfolds_selfHeal inner (uses k _ _ _ rfl) capabilities target w
  | lookup key strategy value => exact unfolds_lookup inner (serves key) strategy value
  | quit key => exact .of_doing (d := .quit key) (outer _ rfl) fun _ => False.elim
  | lose key => exact .of_doing (d := .lose key) (outer _ rfl) fun _ => False.elim
  | meanwhile clock outside =>
    exact .of_doing (d := .meanwhile clock outside) (outer _ rfl) fun _ => False.elim

private theorem unfolds_chronicle {steps : List (FileTree × Deal ε τ)}
    (outer : ∀ d : Doing ε τ, d.Outer steps → allowed d)
    (uses : ∀ files k options capabilities target,
      (files, .selfHeal k options capabilities target) ∈ steps → services k.service)
    (serves : ∀ key, (w.sessions key).Routed fun p _ => ∀ h, p = .healing h → services h.service) :
    w.Unfolds allowed (chronicle w steps) := by
  induction steps generalizing w with
  | nil => exact .refl w
  | cons step rest ih =>
    obtain ⟨files, d⟩ := step
    have here : ∀ k options capabilities target, d = .selfHeal k options capabilities target →
        services k.service := by
      rintro k options capabilities target rfl
      exact uses files k options capabilities target List.mem_cons_self
    have found : w.Unfolds allowed { w with files } :=
      .of_doing (d := .arrange files) (outer _ ⟨_, List.mem_cons_self, .inl rfl⟩)
        fun _ => False.elim
    have dealt : { w with files }.Unfolds allowed (d.after { w with files }) :=
      unfolds_after inner (fun e same => outer e ⟨_, List.mem_cons_self, .inr same⟩) here serves
    refine (found.trans dealt).trans (ih ?_ ?_ ?_)
    · rintro e ⟨step, later, occurs⟩
      exact outer e ⟨step, List.mem_cons_of_mem _ later, occurs⟩
    · exact fun files k options capabilities target later =>
        uses files k options capabilities target (List.mem_cons_of_mem _ later)
    · refine routed_after (w := { w with files }) ?_ serves
      cases d with
      | selfHeal k options capabilities target =>
        rintro auth - h ⟨⟩
        exact here k options capabilities target rfl
      | _ => trivial

end History

/-- A session that has gone is not driven any more. Every history of sessions is a course of doings:
calls of set-ups and lookups to the services in play and to drivers, and what becomes of sessions
beside them. From wherever on its course a session has gone, be it closed or lost between two deals
or while a call of a lookup is under way, its driver is not asked for an element or a script, and no
service is polled for it, up to the end. -/
theorem gone_undriven (w : World ε τ) (steps : List (FileTree × Deal ε τ)) :
    ∃ doings : List (Doing ε τ), Doing.course w doings = chronicle w steps ∧
      (∀ d ∈ doings, d.Inner (InPlay w steps) ∨ d.Outer steps) ∧
      ∀ earlier rest, doings = earlier ++ rest → ∀ key, (Doing.course w earlier).Gone key →
        (∀ d ∈ rest, ¬d.Drives key) ∧
        (Doing.course w earlier).Adds (fun e => ¬e.Drives key) (chronicle w steps) := by
  obtain ⟨doings, same, sound⟩ : w.Unfolds (fun d => d.Inner (InPlay w steps) ∨ d.Outer steps)
      (chronicle w steps) := by
    refine unfolds_chronicle (fun d (does : d.Inner (InPlay w steps)) => .inl does)
      (fun _ => .inr) ?_ ?_
    · exact fun files k options capabilities target there =>
        .inr ⟨files, k, options, capabilities, target, there, rfl⟩
    · rintro key name p options there h rfl
      exact .inl ⟨key, name, h, options, there, rfl⟩
  refine ⟨doings, same, sound.allowed_of_mem, ?_⟩
  rintro earlier rest rfl key gone
  have later := (Doing.sound_append.1 sound).2
  refine ⟨later.undriven gone, ?_⟩
  rw [← same, Doing.course_append]
  refine later.undriven_trace (fun event occurs => ?_) gone
  rcases occurs with idle | ⟨step, -, arranged | dealt⟩
  · exact idle
  · cases arranged
  · obtain ⟨files, d⟩ := step
    cases d with
    | _ => cases dealt

section Concrete

def commands (w : World Still Rat) : List Command :=
  w.trace.filterMap fun e =>
    match e.event with
    | .driver _ command => some command
    | _ => none

/-- Lookups are healed by a service that answers with a script, and meanwhile the session is
closed. -/
def closingWorld : World Still Rat :=
  (Manner.closing "s" (.ok (some "mark()"))).world
    { isAuthenticated := true, isHealingEnabled := some true } { selfHeal := true } none "here"

def closingSteps : List (FileTree × Deal Still Rat) :=
  [(⟨[], []⟩, .lookup "s" (.str "id") (.str "gone")),
    (⟨[], []⟩, .lookup "s" (.str "id") (.str "here"))]

/-- Of the script and of the lookup that come after the session is closed, neither reaches the
driver. -/
theorem gone_undriven_closing :
    commands (chronicle closingWorld closingSteps) =
        [.find (.str "id") (.str "gone"), .quit, .quit] ∧
      ∃ doings : List (Doing Still Rat),
        Doing.course closingWorld doings = chronicle closingWorld closingSteps ∧
        ∀ earlier rest, doings = earlier ++ rest → (Doing.course closingWorld earlier).Gone "s" →
          ∀ d ∈ rest, ¬d.Drives "s" := by
  obtain ⟨doings, same, -, undriven⟩ := gone_undriven closingWorld closingSteps
  exact ⟨rfl, doings, same, fun earlier rest split gone =>
    (undriven earlier rest split "s" gone).1⟩

end Concrete

end Deal

end LocatorHealing
