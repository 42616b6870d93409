import LocatorHealing.Proofs.Session.Pair
import LocatorHealing.Proofs.Unaudited.Files

set_option autoImplicit false
set_option relaxedAutoImplicit false

/-!
Lookups with and without auditing. Of two worlds, one has sessions whose lookups are audited, and
the other has the same sessions without that; their files differ in what auditing leaves there. A
lookup comes to the same in both: an audit entry is seen by the disk and the log alone, and where it
is refused the refusal ends there.
-/

namespace LocatorHealing

open LocatorHealing.Action (Pairs pairs_pure pairs_raise pairs_read pairs_modify pairs_bind
  pairs_then)

variable {ε τ : Type}

section Unaudited

def Settings.unaudited (s : Settings τ) : Settings τ :=
  { s with auditDirectory := none }

def Healing.unaudited (h : Healing ε τ) : Healing ε τ :=
  { h with settings := h.settings.unaudited, auditFile := none }

def Protocol.unaudited : Protocol ε τ → Protocol ε τ
  | .healing h => .healing h.unaudited
  | .failing fault => .failing fault

def Middleware.unaudited : Middleware ε τ → Middleware ε τ
  | .intercepting p options => .intercepting p.unaudited options
  | .custom b => .custom b

def Session.unaudited (s : Session ε τ) : Session ε τ :=
  { s with middlewares := s.middlewares.map fun p => (p.1, p.2.unaudited) }

section Fields

variable (s : Session ε τ)

@[simp] theorem Session.takesAddons_unaudited : s.unaudited.takesAddons = s.takesAddons := rfl

@[simp] theorem Session.browserName_unaudited : s.unaudited.browserName = s.browserName := rfl

end Fields

/-- Healing through a service that is audited as the settings say. -/
structure Healing.Belongs (service : Service ε τ) (settings : Settings τ) (h : Healing ε τ) :
    Prop where
  service : h.service = service
  auditFile : h.auditFile = settings.auditFile?

def Protocol.Belongs (service : Service ε τ) (settings : Settings τ) : Protocol ε τ → Prop
  | .healing h => h.Belongs service settings
  | .failing _ => True

def Middleware.Belongs (service : Service ε τ) (settings : Settings τ) : Middleware ε τ → Prop
  | .intercepting p _ => p.Belongs service settings
  | .custom _ => True

end Unaudited

/-- The world outside does not look at what is written to the audit file, and what it refuses to
write is refused by the system. -/
structure Overlooks [Outside ε τ] (same : ε → ε → Prop) (service : Service ε τ)
    (settings : Settings τ) : Prop where
  refl : ∀ s, same s s
  finds : ∀ key strategy value, Respects same (Outside.find (ε := ε) key strategy value)
  scripts : ∀ key script arguments, Respects same (Outside.runScript (ε := ε) key script arguments)
  addons : ∀ key path temporary, Respects same (Outside.installAddon (ε := ε) key path temporary)
  quits : ∀ key, Respects same (Outside.quit (ε := ε) key)
  inquiries : ∀ inquiry, Respects same (service.call inquiry).exchange
  appends : ∀ file, settings.auditFile? = some file → ∀ line s t, same s t →
    same (Outside.append file.text line s).2 t
  plainly : ∀ file, settings.auditFile? = some file → ∀ line (s : ε) fault,
    (Outside.append file.text line s).1 = some fault → fault.isSystem = true

/-- A world with auditing next to one without: they differ in the log, in what auditing has left,
and in that the sessions of the other are not audited. -/
structure World.Audited (same : ε → ε → Prop) (service : Service ε τ) (settings : Settings τ)
    (w v : World ε τ) : Prop where
  clock : w.clock = v.clock
  boundsSleep : w.boundsSleep = v.boundsSleep
  trace : w.trace = v.trace
  environment : w.environment = v.environment
  sessions : ∀ key, v.sessions key = (w.sessions key).unaudited
  belongs : ∀ key, ∀ p ∈ (w.sessions key).middlewares, p.2.Belongs service settings
  files : settings.Leaves v.files w.files
  outside : same w.outside v.outside

open World (Audited)

section Twins

variable {same : ε → ε → Prop} {service : Service ε τ} {settings : Settings τ}

theorem pairs_modifySession (key : String) {f g : Session ε τ → Session ε τ}
    (commutes : ∀ s, g s.unaudited = (f s).unaudited)
    (belong : ∀ s, (∀ p ∈ s.middlewares, p.2.Belongs service settings) →
      ∀ p ∈ (f s).middlewares, p.2.Belongs service settings) :
    Pairs (Audited same service settings) Eq (Action.modifySession key f)
      (Action.modifySession key g) := by
  refine pairs_modify fun w v worlds => { worlds with sessions := ?_, belongs := ?_ }
  · intro other
    dsimp only
    split
    · rw [worlds.sessions, commutes]
    · exact worlds.sessions other
  · intro other
    dsimp only
    split
    · exact belong _ (worlds.belongs key)
    · exact worlds.belongs other

theorem twins_audited [TimeScale τ] : Twins (Audited same service settings) where
  logs _ _ worlds := { worlds with }
  clock worlds := worlds.clock
  later clocks worlds := { worlds with clock := clocks }
  notes event := pairs_modify fun w v worlds => by
    refine { worlds with trace := ?_ }
    change w.trace ++ [⟨w.clock, event⟩] = v.trace ++ [⟨v.clock, event⟩]
    rw [worlds.clock, worlds.trace]
  sleeps worlds _ := by rw [worlds.boundsSleep]
  closes key := pairs_modifySession key (fun _ => rfl) fun _ belong => belong
  loses key := pairs_modifySession key (fun _ => rfl) fun _ belong => belong

theorem reacts_audited {α : Type} {f : ε → α × ε} (respects : Respects same f) :
    ReactsAlike (Audited same service settings) f := by
  intro w v worlds
  obtain ⟨answer, outside⟩ := respects _ _ worlds.outside
  rw [Action.run_react, Action.run_react, answer]
  exact ⟨.ok rfl, { worlds with outside }⟩

theorem pairs_session (key : String) :
    Pairs (Audited same service settings)
      (fun s t => t = s.unaudited ∧ ∀ p ∈ s.middlewares, p.2.Belongs service settings)
      (Action.session key) (Action.session key) :=
  pairs_read fun _ _ worlds => ⟨worlds.sessions key, worlds.belongs key⟩

theorem pairs_inSession {α β : Type} {V : α → β → Prop} {key : String}
    {f : Session ε τ → Action ε τ α} {g : Session ε τ → Action ε τ β}
    (does : ∀ s, Pairs (Audited same service settings) V (f s) (g s.unaudited)) :
    Pairs (Audited same service settings) V (Action.session key >>= f)
      (Action.session key >>= g) := by
  refine pairs_bind (pairs_session key) fun s _ ⟨without, _⟩ => ?_
  rw [without]
  exact does s

end Twins

section Driver

variable [Outside ε τ] [TimeScale τ] {same : ε → ε → Prop} {service : Service ε τ}
  {settings : Settings τ} (overlooks : Overlooks same service settings)
include overlooks

namespace Session

theorem pairs_installAddon (key path : String) (temporary : Json) :
    Pairs (Audited same service settings) Eq (installAddon key path temporary)
      (installAddon key path temporary) := by
  refine pairs_inSession fun s => ?_
  rw [takesAddons_unaudited, browserName_unaudited]
  split
  · exact twins_audited.pairs_perform (reacts_audited ((overlooks.addons _ _ _).showing _))
  · exact pairs_raise _

theorem pairs_quit (key : String) :
    Pairs (Audited same service settings) Eq (quit key) (quit key) :=
  pairs_then (twins_audited.closes key) fun _ =>
    twins_audited.pairs_perform (reacts_audited ((overlooks.quits key).showing _))

end Session

end Driver

namespace Healing

variable [Outside ε τ] {same : ε → ε → Prop} {service : Service ε τ} {settings : Settings τ}
  (overlooks : Overlooks same service settings)
include overlooks

/-- Whatever becomes of an audit entry, it is for the world without auditing as if there were
none. -/
private theorem audited_write {directory : String} (audits : settings.AuditsIn directory)
    (record : Audit.Record) {w v : World ε τ} (worlds : w.Audited same service settings v) :
    ((Audit.write (Audit.fileIn directory) record).run w).2.Audited same service settings v := by
  have there : settings.auditFile? = some (Audit.fileIn directory) := by
    rw [Settings.auditFile?, audits, Option.map_some]
  have outside := overlooks.appends _ there record.line _ _ worlds.outside
  unfold Audit.write
  rw [Action.run_bind, Action.run_react, Action.andThen_ok]
  cases (Outside.append (Audit.fileIn directory).text record.line w.outside).1 with
  | some fault => exact { worlds with outside }
  | none =>
    dsimp only
    rw [Action.run_bind, Action.run_read, Action.andThen_ok, Action.run_bind, Action.run_ofExcept]
    cases appended : w.files.append (Audit.fileIn directory) (Utf8.octets record.line) with
    | error fault => exact { worlds with outside }
    | ok files => exact { worlds with outside, files := worlds.files.appended audits appended }

namespace Run

variable {r : Run ε τ} (belongs : r.healing.Belongs service settings)
include belongs

private theorem pairs_audit (p : Progress) (outcome : Outcome) :
    Pairs (Audited same service settings) Eq (r.audit p outcome) (pure ()) := by
  intro w v worlds
  unfold audit
  rw [belongs.auditFile, Settings.auditFile?]
  cases audits : settings.auditDirectory.filter (· ≠ "") with
  | none => exact ⟨.ok rfl, worlds⟩
  | some directory =>
    rw [Option.map_some]
    dsimp only
    split
    · -- the directory was made, so the path of the file is fit, and only the system refuses it
      have plainly : r.healing.AuditsPlainly := by
        refine auditsPlainly_of_fit (fun file there => ?_) fun file there => ?_
        · rw [belongs.auditFile, Settings.auditFile?, audits] at there
          rw [← Option.some.inj there]
          exact worlds.files.fit audits
        · exact overlooks.plainly file (belongs.auditFile ▸ there)
      have there : r.healing.auditFile = some (Audit.fileIn directory) := by
        rw [belongs.auditFile, Settings.auditFile?, audits, Option.map_some]
      have left := audited_write overlooks audits (r.record p w.timestamp outcome) worlds
      rw [Action.run_bind, Action.run_read, Action.andThen_ok, Action.run_bind,
        Action.run_attempt, Action.andThen_ok]
      rcases written : (Audit.write (Audit.fileIn directory)
        (r.record p w.timestamp outcome)).run w with ⟨fault | _, u⟩
      · rw [written] at left
        have system := plainly _ there _ _ _ _ written
        obtain ⟨log, told⟩ := Action.run_log .debug
          ("Could not write healing audit entry: " ++ fault.message) u
        simp only [system, if_true, told]
        exact ⟨.ok rfl, { left with }⟩
      · rw [written] at left
        exact ⟨.ok rfl, left⟩
    · exact ⟨.ok rfl, worlds⟩

private theorem pairs_finish [TimeScale τ] (look : Json → Json → Action ε τ Outcome) (p : Progress)
    (outcome : Outcome) :
    Pairs (Audited same service settings) Eq (r.finish p outcome)
      ((r.through none none look).finish p outcome) :=
  pairs_then (twins_audited.pairs_log _ _ _ _) fun _ =>
    pairs_then (pairs_audit overlooks belongs p outcome) fun _ => pairs_pure rfl

end Run

end Healing

namespace Session

variable {service : Service ε τ} {settings : Settings τ}

private theorem alike_unaudited {s : Session ε τ}
    (belong : ∀ p ∈ s.middlewares, p.2.Belongs service settings) :
    s.Alike (Healing.Belongs service settings) none none s.unaudited where
  rest := rfl
  middlewares := by
    refine List.forall₂_map_right_iff.2 (List.forall₂_same.2 fun p there => ⟨rfl, ?_⟩)
    have belongs := belong p there
    obtain ⟨name, m⟩ := p
    cases m with
    | custom b => exact .custom b
    | intercepting protocol options =>
      cases protocol with
      | healing h => exact .healing belongs options
      | failing fault => exact .failing fault options

variable [Outside ε τ] [TimeScale τ] {same : ε → ε → Prop}
  (overlooks : Overlooks same service settings) (key : String)
include overlooks

private theorem mirrors_audited :
    Session.Mirrors Eq (Audited same service settings) key (Healing.Belongs service settings)
      none none fun _ => True where
  attuned := twins_audited.toAttuned
  logs _ _ := twins_audited.pairs_log _ _ _ _
  sessions worlds := by
    rw [worlds.sessions]
    exact alike_unaudited (worlds.belongs key)
  knows _ := trivial
  finds _ _ := twins_audited.pairs_perform (reacts_audited ((overlooks.finds _ _ _).showing _))
  scripts _ := twins_audited.pairs_perform (reacts_audited ((overlooks.scripts _ _ _).showing _))
  asks h belongs inquiry _ _ _ := by
    rw [belongs.service]
    exact twins_audited.pairs_ask (reacts_audited (overlooks.inquiries inquiry))
  finishes _ look p outcome belongs :=
    Healing.Run.pairs_finish overlooks belongs look p outcome

theorem pairs_lookup (strategy value : Json) :
    Pairs (Audited same service settings) Eq (lookup key strategy value)
      (lookup key strategy value) :=
  (mirrors_audited overlooks key).pairs_lookup strategy value

end Session

end LocatorHealing
