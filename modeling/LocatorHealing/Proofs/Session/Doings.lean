import LocatorHealing.Proofs.Healing.Teardown
import LocatorHealing.Proofs.Session.Admission

set_option autoImplicit false
set_option relaxedAutoImplicit false

/-!
The history of sessions, one doing after the other. A doing is a call that is made, with all that
happens while it is under way, or a change of the world. A session that has gone stays away through
every doing. So once it is seen that no deal asks a driver for an element or a script, or polls for
a session, but while the session is there, a session that has gone is not driven any more.
-/

namespace LocatorHealing

open LocatorHealing.Action (Keeps)

variable {ε τ : Type}

/-- Nothing but time passing, and middlewares of a user's own that are entered. -/
def Event.IsIdle : Event τ → Prop
  | .slept _ => True
  | .middleware _ _ _ => True
  | _ => False

/-- The driver of a session is asked for an element, or a script. -/
def Event.Drives (key : String) : Event τ → Prop
  | .driver other (.find _ _) => other = key
  | .driver other (.script _ _) => other = key
  | _ => False

def Inquiry.IsPoll : Inquiry τ → Prop
  | .poll _ _ _ _ => True
  | _ => False

/-- One thing that is done in the world. -/
inductive Doing (ε τ : Type) where
  | find (key : String) (strategy value : Json)
  | script (key text : String) (arguments : List Json)
  /-- A service is polled for a lookup in a session, by the name that the driver has for it. -/
  | poll (key : String) (service : Service ε τ) (endpoint : String) (token : Option String)
    (limit : Option τ)
  /-- A service is asked something else. -/
  | ask (service : Service ε τ) (inquiry : Inquiry τ)
  | install (key path : String) (temporary : Json)
  | register (key name : String) (m : Middleware ε τ)
  | audit (file : FilePath) (record : Audit.Record)
  | note (event : Event τ)
  | tell (log : List (Level × String))
  | tick (clock : τ)
  | quit (key : String)
  | lose (key : String)
  /-- Other files are found. -/
  | arrange (files : FileTree)
  /-- Time passes, and the world outside changes. -/
  | meanwhile (clock : τ) (outside : ε)

namespace Doing

/-- The session is driven: asked for an element or a script, or polled for. -/
def Drives (key : String) : Doing ε τ → Prop
  | find other _ _ => other = key
  | script other _ _ => other = key
  | poll other _ _ _ _ => other = key
  | _ => False

/-- What set-ups and lookups do that use certain services. -/
def Inner (services : Service ε τ → Prop) : Doing ε τ → Prop
  | poll _ service _ _ _ => services service
  | ask service inquiry => services service ∧ ¬inquiry.IsPoll
  | note event => event.IsIdle
  | quit _ => False
  | lose _ => False
  | arrange _ => False
  | meanwhile _ _ => False
  | _ => True

variable [Outside ε τ] [TimeScale τ]

def after (w : World ε τ) : Doing ε τ → World ε τ
  | find key strategy value =>
    ((Action.perform (Session.findCommand key strategy value)).run w).2
  | script key text arguments =>
    ((Action.perform (Session.scriptCommand key text arguments)).run w).2
  | poll key service endpoint token limit =>
    ((Action.ask service (.poll endpoint (w.sessions key).sessionId token limit)).run w).2
  | ask service inquiry => ((Action.ask service inquiry).run w).2
  | install key path temporary =>
    ((Action.perform (.showing (.driver key (.installAddon path temporary))
      (Outside.installAddon key path temporary))).run w).2
  | register key name m =>
    ((Action.modifySession key fun s => s.register name m : Action ε τ Unit).run w).2
  | audit file record => ((Audit.write file record : Action ε τ Unit).run w).2
  | note event => ((Action.note event : Action ε τ Unit).run w).2
  | tell log => { w with log }
  | tick clock => { w with clock }
  | quit key => ((Session.quit key).run w).2
  | lose key => ((Action.happen (.lose key) : Action ε τ Unit).run w).2
  | arrange files => { w with files }
  | meanwhile clock outside => { w with clock, outside }

def course (w : World ε τ) (doings : List (Doing ε τ)) : World ε τ :=
  doings.foldl after w

theorem course_append (w : World ε τ) (before doings : List (Doing ε τ)) :
    course w (before ++ doings) = course (course w before) doings :=
  List.foldl_append

end Doing

section Ages

/-- From one world to another, sessions may go away, but do not come, nor change their names. -/
def World.Ages (w v : World ε τ) : Prop :=
  ∀ key, (v.sessions key).isActive = true →
    (w.sessions key).isActive = true ∧ (v.sessions key).sessionId = (w.sessions key).sessionId

theorem World.Ages.of_same {w v : World ε τ} (same : v.sessions = w.sessions) : w.Ages v := by
  intro key active
  rw [same] at active ⊢
  exact ⟨active, rfl⟩

theorem World.Ages.modifySession (key : String) {f : Session ε τ → Session ε τ}
    (ages : ∀ s, (f s).isActive = true → s.isActive = true ∧ (f s).sessionId = s.sessionId) :
    Keeps World.Ages (Action.modifySession key f : Action ε τ Unit) := by
  intro w other active
  simp only [Action.modifySession, Action.run_modify] at active ⊢
  split at active
  case isTrue here =>
    rw [if_pos here, here]
    exact ages _ active
  case isFalse apart =>
    rw [if_neg apart]
    exact ⟨active, rfl⟩

theorem sturdy_ages : Sturdy (World.Ages (ε := ε) (τ := τ)) where
  refl _ _ active := ⟨active, rfl⟩
  trans first second key active := by
    obtain ⟨there, same⟩ := second key active
    obtain ⟨before, same'⟩ := first key there
    exact ⟨before, same.trans same'⟩
  log _ _ _ := .of_same rfl
  clock _ _ := .of_same rfl
  trace _ _ := .of_same rfl
  outside _ _ := .of_same rfl
  closes key := .modifySession key fun _ active => by cases active
  loses key := .modifySession key fun s active => by
    simp [Session.isActive, Json.isNull] at active

end Ages

namespace Doing

variable [Outside ε τ] [TimeScale τ]

theorem ages (w : World ε τ) (d : Doing ε τ) : w.Ages (d.after w) := by
  have hR := sturdy_ages (ε := ε) (τ := τ)
  cases d with
  | find key strategy value => exact hR.keeps_call _ w
  | script key text arguments => exact hR.keeps_call _ w
  | poll key service endpoint token limit => exact hR.keeps_ask _ _ w
  | ask service inquiry => exact hR.keeps_ask _ _ w
  | install key path temporary => exact hR.keeps_call _ w
  | register key name m =>
    refine World.Ages.modifySession key (fun s active => ?_) w
    rw [Session.register] at active ⊢
    split
    case isTrue taken => rw [if_pos taken] at active; exact ⟨active, rfl⟩
    case isFalse free => rw [if_neg free] at active; exact ⟨active, rfl⟩
  | audit file record =>
    exact Healing.Run.auditKeeps_of hR.toFrame (fun _ _ w => hR.outside w _)
      (fun _ _ => .of_same rfl) file record w
  | note event => exact hR.keeps_note event w
  | tell log => exact .of_same rfl
  | tick clock => exact .of_same rfl
  | quit key => exact Session.keeps_quit hR key w
  | lose key => exact hR.keeps_happen (.lose key) w
  | arrange files => exact .of_same rfl
  | meanwhile clock outside => exact .of_same rfl

theorem ages_course (w : World ε τ) (doings : List (Doing ε τ)) : w.Ages (course w doings) := by
  induction doings generalizing w with
  | nil => exact sturdy_ages.refl w
  | cons d rest ih => exact sturdy_ages.trans (d.ages w) (ih (d.after w))

private theorem gone_course {w : World ε τ} {key : String} (gone : w.Gone key)
    (doings : List (Doing ε τ)) : (course w doings).Gone key :=
  Bool.eq_false_iff.2 fun active =>
    Bool.noConfusion (gone.symm.trans (ages_course w doings key active).1)

def Heeds (w : World ε τ) (d : Doing ε τ) : Prop :=
  ∀ key, d.Drives key → (w.sessions key).isActive = true

/-- Every doing is one that occurs, and drives no session that has gone by then. -/
def Sound (allowed : Doing ε τ → Prop) (w : World ε τ) : List (Doing ε τ) → Prop
  | [] => True
  | d :: rest => (allowed d ∧ d.Heeds w) ∧ Sound allowed (d.after w) rest

variable {allowed : Doing ε τ → Prop} {w : World ε τ}

theorem sound_append {before rest : List (Doing ε τ)} :
    Sound allowed w (before ++ rest) ↔
      Sound allowed w before ∧ Sound allowed (course w before) rest := by
  induction before generalizing w with
  | nil => exact ⟨fun sound => ⟨trivial, sound⟩, And.right⟩
  | cons d before ih => exact (and_congr_right' ih).trans and_assoc.symm

theorem Sound.allowed_of_mem {doings : List (Doing ε τ)} (sound : Sound allowed w doings) :
    ∀ d ∈ doings, allowed d := by
  induction doings generalizing w with
  | nil => exact fun _ there => absurd there List.not_mem_nil
  | cons d rest ih =>
    intro e there
    rcases List.mem_cons.1 there with rfl | later
    · exact sound.1.1
    · exact ih sound.2 e later

theorem Sound.undriven {doings : List (Doing ε τ)} (sound : Sound allowed w doings) {key : String}
    (gone : w.Gone key) : ∀ d ∈ doings, ¬d.Drives key := by
  induction doings generalizing w with
  | nil => exact fun _ there => absurd there List.not_mem_nil
  | cons d rest ih =>
    intro e there drives
    rcases List.mem_cons.1 there with rfl | later
    · exact Bool.noConfusion (gone.symm.trans (sound.1.2 key drives))
    · exact ih sound.2 (gone_course gone [d]) e later drives

private theorem adds_after (w : World ε τ) {d : Doing ε τ}
    (idle : ∀ event, d = .note event → event.IsIdle) (key : String) :
    w.Adds (fun e => e.Drives key → d.Drives key) (d.after w) := by
  have passing {α : Type} {call : Call ε τ α} (event : Event τ) (passes : call.Passes event) :
      event.Drives key → d.Drives key := by
    cases passes with
    | quit other => exact False.elim
    | send sent => exact False.elim
  have asks (service : Service ε τ) (inquiry : Inquiry τ) :
      w.Adds (fun e => e.Drives key → d.Drives key) ((Action.ask service inquiry).run w).2 := by
    refine Action.adds_ask False.elim (fun event shows => ?_) passing w
    obtain ⟨request, rfl⟩ := service.shows_request inquiry event shows
    exact False.elim
  cases d with
  | find other strategy value =>
    refine Action.adds_perform (fun event shows => ?_) passing w
    obtain rfl := Option.some.inj shows
    exact id
  | script other text arguments =>
    refine Action.adds_perform (fun event shows => ?_) passing w
    obtain rfl := Option.some.inj shows
    exact id
  | poll other service endpoint token limit => exact asks _ _
  | ask service inquiry => exact asks _ _
  | install other path temporary =>
    refine Action.adds_perform (fun event shows => ?_) passing w
    obtain rfl := Option.some.inj shows
    exact id
  | register other name m => exact .of_trace rfl
  | audit file record =>
    have hR := frame_adds (ε := ε) fun e : Event τ => e.Drives key → False
    exact Healing.Run.auditKeeps_of hR (fun _ _ _ => .of_trace rfl)
      (fun _ _ => .of_trace rfl) file record w
  | note event =>
    refine ⟨[⟨w.clock, event⟩], rfl, fun e there => ?_⟩
    obtain rfl := List.mem_singleton.1 there
    have idle := idle event rfl
    cases event with
    | driver other command => exact idle.elim
    | _ => exact False.elim
  | tell log => exact .of_trace rfl
  | tick clock => exact .of_trace rfl
  | quit other =>
    have hR := frame_adds (ε := ε) fun e : Event τ => e.Drives key → False
    refine hR.keeps_bind (fun _ => .of_trace rfl) (fun _ => ?_) w
    refine Action.adds_perform (fun event shows => ?_) passing
    obtain rfl := Option.some.inj shows
    exact id
  | lose other => exact .of_trace rfl
  | arrange files => exact .of_trace rfl
  | meanwhile clock outside => exact .of_trace rfl

/-- No event from then on drives a session that has gone. -/
theorem Sound.undriven_trace {doings : List (Doing ε τ)} (sound : Sound allowed w doings)
    (idle : ∀ event, allowed (.note event) → event.IsIdle) {key : String} (gone : w.Gone key) :
    w.Adds (fun e => ¬e.Drives key) (course w doings) := by
  induction doings generalizing w with
  | nil => exact .refl w
  | cons d rest ih =>
    have undriven := sound.undriven gone d List.mem_cons_self
    have first := (adds_after w (d := d) (fun event same => idle event (same ▸ sound.1.1)) key).mono
      fun e drives driven => undriven (drives driven)
    exact (frame_adds _).trans first (ih sound.2 (gone_course gone [d]))

end Doing

end LocatorHealing
