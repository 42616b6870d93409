import Mathlib.Tactic.Ring
import LocatorHealing.Proofs.Audit
import LocatorHealing.Proofs.Healing.Steady
import LocatorHealing.Proofs.Session.Frame
import LocatorHealing.Proofs.Session.Pair
import LocatorHealing.TimeScale.Exact
import LocatorHealing.Worker

set_option autoImplicit false
set_option relaxedAutoImplicit false

/-!
Sessions that are kept apart by the world outside. The healing of several sessions is one: they
share the service, the settings, the audit file and the clock. If calls for one session are answered
by what that session did before, and go unnoticed by the others, then a lookup leaves other sessions
as they were, and comes to the same wherever the clock stands.
-/

namespace LocatorHealing

open LocatorHealing.Action (Keeps Pairs pairs_modify pairs_then)

section Hypotheses

variable {ε : Type}

/-- A call for a session: what comes of it depends on no more than that session can tell, and no
other session notices. -/
structure Confined {ρ α : Type} (same : String → ε → ε → Prop) (key : String)
    (f : ε → Exchange Rat ρ α × ε) : Prop where
  respects : Respects (same key) f
  spares : ∀ other, other ≠ key → ∀ s,
    same other s (f s).2 ∧ ∀ h ∈ (f s).1.happenings, h.Spares other

theorem Confined.showing {α : Type} {same : String → ε → ε → Prop} {key : String}
    {f : ε → Exchange Rat Empty α × ε} (confined : Confined same key f) (event : Event Rat) :
    Confined same key (Call.showing event f).exchange where
  respects := confined.respects.showing event
  spares other different s := by
    obtain ⟨told, spares⟩ := confined.spares other different s
    refine ⟨told, fun h there => ?_⟩
    obtain ⟨own, among, rfl⟩ := List.mem_map.1 there
    have spared := spares own among
    cases own with
    | send nothing => exact nothing.elim
    | _ => exact spared

/-- A session is named by its identifier, or by `null` once it is lost. -/
def Names (ids : String → Json) (key : String) (sessionId : Json) : Prop :=
  sessionId = ids key ∨ sessionId = .null

/-- The world outside keeps sessions apart. Two of its states are the `same` to a session that has
made the same calls in both. An inquiry belongs to the session that it names; what is asked for lost
sessions is told apart by nothing, so no session may notice it. -/
structure Apart [Outside ε Rat] (service : Service ε Rat) (ids : String → Json)
    (same : String → ε → ε → Prop) : Prop where
  equivalence : ∀ key, Equivalence (same key)
  finds : ∀ key strategy value, Confined same key (Outside.find (ε := ε) key strategy value)
  scripts : ∀ key script, Confined same key (Outside.runScript (ε := ε) key script [])
  inquiries : ∀ key inquiry sessionId, inquiry.sessionId? = some sessionId →
    Names ids key sessionId → Confined same key (service.call inquiry).exchange
  appends : ∀ key path line s, same key s (Outside.append path line s).2

end Hypotheses

variable {ε τ : Type}

/-- A middleware that heals, if it does, as the worker does. -/
def Middleware.ServedBy (k : Worker ε τ) : Middleware ε τ → Prop
  | .intercepting (.healing h) _ => ∃ auth, h = k.healing auth
  | .intercepting (.failing _) _ => True
  | .custom _ => True

/-- A session whose lookups are healed by the worker and by no other. -/
def Session.ServedBy (k : Worker ε τ) (s : Session ε τ) : Prop :=
  ∀ p ∈ s.middlewares, p.2.ServedBy k

def Worker.Heals (k : Worker ε τ) (h : Healing ε τ) : Prop :=
  ∃ auth, h = k.healing auth

theorem Session.ServedBy.alike {k : Worker ε τ} {s : Session ε τ} (served : s.ServedBy k) :
    s.Alike k.Heals k.settings.auditDirectory k.auditFile s where
  rest := rfl
  middlewares := by
    refine List.forall₂_same.2 fun p there => ⟨rfl, ?_⟩
    have serves := served p there
    obtain ⟨name, m⟩ := p
    cases m with
    | custom b => exact .custom b
    | intercepting protocol options =>
      cases protocol with
      | failing fault => exact .failing fault options
      | healing h =>
        obtain ⟨auth, rfl⟩ := serves
        exact .healing ⟨auth, rfl⟩ options

section Filing

/-- From one world to another, an audit entry may have been written, and no session can tell. -/
def World.Filed (same : String → ε → ε → Prop) (w v : World ε τ) : Prop :=
  ∃ log files outside, v = { w with log, files, outside } ∧ ∀ key, same key w.outside outside

variable {same : String → ε → ε → Prop} (equivalence : ∀ key, Equivalence (same key))

include equivalence in
private theorem World.filed_logged (w : World ε τ) (log : List (Level × String)) :
    w.Filed same { w with log } :=
  ⟨log, w.files, w.outside, rfl, fun key => (equivalence key).refl _⟩

include equivalence in
theorem World.Filed.trans {u v w : World ε τ} (first : u.Filed same v) (second : v.Filed same w) :
    u.Filed same w := by
  obtain ⟨_, _, _, rfl, told⟩ := first
  obtain ⟨log, files, outside, rfl, later⟩ := second
  exact ⟨log, files, outside, rfl, fun key => (equivalence key).trans (told key) (later key)⟩

variable [Outside ε τ] (appends : ∀ key path line s, same key s (Outside.append path line s).2)
include appends

private theorem Audit.write_filed (file : FilePath) (record : Audit.Record) (w : World ε τ) :
    w.Filed same ((Audit.write file record).run w).2 := by
  have told (key : String) := appends key file.text record.line w.outside
  unfold Audit.write
  rw [Action.run_bind, Action.run_react, Action.andThen_ok]
  cases (Outside.append file.text record.line w.outside).1 with
  | some fault => exact ⟨w.log, w.files, _, rfl, told⟩
  | none =>
    dsimp only
    rw [Action.run_bind, Action.run_read, Action.andThen_ok, Action.run_bind, Action.run_ofExcept]
    cases w.files.append file (Utf8.octets record.line) with
    | error fault => exact ⟨w.log, w.files, _, rfl, told⟩
    | ok files => exact ⟨w.log, files, _, rfl, told⟩

namespace Healing.Run

variable {r : Run ε τ} (plainly : r.healing.AuditsPlainly)
include equivalence plainly

private theorem audit_filed (p : Progress) (outcome : Outcome) (w : World ε τ) :
    w.Filed same ((r.audit p outcome).run w).2 := by
  have nothing : w.Filed same w := World.filed_logged equivalence w w.log
  unfold audit
  cases there : r.healing.auditFile with
  | none => exact nothing
  | some file =>
    dsimp only
    split
    · have filed := Audit.write_filed appends file (r.record p w.timestamp outcome) w
      rw [Action.run_bind, Action.run_read, Action.andThen_ok, Action.run_bind,
        Action.run_attempt, Action.andThen_ok]
      rcases written : (Audit.write file (r.record p w.timestamp outcome)).run w with
        ⟨fault | _, u⟩
      · rw [written] at filed
        have system := plainly file there _ _ _ _ written
        obtain ⟨log, told⟩ := Action.run_log .debug
          ("Could not write healing audit entry: " ++ fault.message) u
        simp only [system, if_true, told]
        exact filed.trans equivalence (World.filed_logged equivalence u log)
      · rw [written] at filed
        exact filed
    · exact nothing

private theorem finish_filed (p : Progress) (outcome : Outcome) (w : World ε τ) :
    ∃ u, (r.finish p outcome).run w = (.ok ⟨p, outcome⟩, u) ∧ w.Filed same u := by
  obtain ⟨u, finished⟩ := finish_answers plainly p outcome w
  refine ⟨u, finished, ?_⟩
  obtain ⟨_, v, logged, rest⟩ := Action.of_run_bind_ok finished
  obtain ⟨log, told⟩ := Action.run_log .debug
    ("Lookup " ++ r.report.strategy ++ "=" ++ r.report.value ++ " on session " ++
      r.report.sessionId.display ++ " finished: " ++ " -> ".intercalate (p.trail.map State.name)) w
  obtain rfl : { w with log } = v := congrArg Prod.snd (told.symm.trans logged)
  obtain ⟨_, v, audited, given⟩ := Action.of_run_bind_ok rest
  have filed := audit_filed equivalence appends plainly p outcome { w with log }
  rw [audited] at filed
  obtain rfl : v = u := congrArg Prod.snd given
  exact (World.filed_logged equivalence w log).trans equivalence filed

omit equivalence appends plainly in
private theorem finish_through {directory : Option String} {file : Option FilePath}
    {look : Json → Json → Action ε τ Outcome} (there : r.healing.auditFile = file) (p : Progress)
    (outcome : Outcome) :
    (r.through directory file look).finish p outcome = r.finish p outcome := by
  subst there
  rfl

end Healing.Run

end Filing

section Own

/-- Two clocks that show exact numbers, a fixed time apart. -/
def Lags (lag a b : Rat) : Prop :=
  b = a + lag

instance (lag : Rat) : Parallel (Lags lag) where
  add {a b} duration lags := by
    rw [Lags] at lags
    refine .some ?_
    rw [Lags, lags]
    ring
  sub {a b c d} lags lags' := by
    rw [Lags] at lags lags'
    rw [TimeScale.sub?_rat, TimeScale.sub?_rat, lags, lags']
    ring_nf

def TraceEntry.after (lag : Rat) (entry : TraceEntry Rat) : TraceEntry Rat :=
  { entry with clock := entry.clock + lag }

/-- Two worlds that are the same to a session, up to a lag between their clocks, from two traces
on. -/
structure World.Lagging (k : Worker ε Rat) (ids : String → Json) (same : String → ε → ε → Prop)
    (key : String) (lag : Rat) (s t : List (TraceEntry Rat)) (w v : World ε Rat) : Prop where
  clock : Lags lag w.clock v.clock
  session : v.sessions key = w.sessions key
  served : (w.sessions key).ServedBy k
  named : Names ids key (w.sessions key).sessionId
  outside : same key w.outside v.outside
  trace : ∃ new, w.trace = s ++ new ∧ v.trace = t ++ new.map (TraceEntry.after lag)

variable {k : Worker ε Rat} {ids : String → Json} {same : String → ε → ε → Prop} {key : String}
  {lag : Rat} {s t : List (TraceEntry Rat)}

open World (Lagging)

theorem World.Lagging.modifySession (other : String) {f : Session ε Rat → Session ε Rat}
    (serves : ∀ s, s.ServedBy k → (f s).ServedBy k)
    (names : ∀ s, Names ids key s.sessionId → Names ids key (f s).sessionId) :
    Pairs (Lagging k ids same key lag s t) Eq (Action.modifySession other f)
      (Action.modifySession other f) := by
  refine pairs_modify fun w v worlds => ?_
  by_cases here : key = other
  · subst here
    refine { worlds with session := ?_, served := ?_, named := ?_ }
    · simp only [if_true, worlds.session]
    · simpa only [if_true] using serves _ worlds.served
    · simpa only [if_true] using names _ worlds.named
  · refine { worlds with session := ?_, served := ?_, named := ?_ }
    · simpa only [if_neg here] using worlds.session
    · simpa only [if_neg here] using worlds.served
    · simpa only [if_neg here] using worlds.named

private theorem companions_lagging : Companions (Lags lag) (Lagging k ids same key lag s t) where
  clock worlds := worlds.clock
  later clocks worlds := { worlds with clock := clocks }
  notes event := by
    refine pairs_modify fun w v worlds => { worlds with trace := ?_ }
    obtain ⟨new, grown, alike⟩ := worlds.trace
    refine ⟨new ++ [⟨w.clock, event⟩], ?_, ?_⟩
    · simp only [grown, List.append_assoc]
    · have clock : v.clock = w.clock + lag := worlds.clock
      simp only [alike, clock, List.map_append, List.append_assoc]
      rfl
  sleeps _ duration := by
    rw [TimeScale.sleepFault?_rat, TimeScale.sleepFault?_rat]
  closes other := World.Lagging.modifySession other (fun _ serves => serves) fun _ named => named
  loses other := World.Lagging.modifySession other (fun _ serves => serves) fun _ _ => .inr rfl

theorem World.Lagging.reacts {α : Type} {f : ε → α × ε} (respects : Respects (same key) f) :
    ReactsAlike (Lagging k ids same key lag s t) f := by
  intro w v worlds
  obtain ⟨answer, outside⟩ := respects _ _ worlds.outside
  rw [Action.run_react, Action.run_react, answer]
  exact ⟨.ok rfl, { worlds with outside }⟩

private theorem World.Lagging.filed (equivalence : ∀ key, Equivalence (same key))
    {w v w' v' : World ε Rat}
    (worlds : Lagging k ids same key lag s t w v) (first : w.Filed same w')
    (second : v.Filed same v') : Lagging k ids same key lag s t w' v' := by
  obtain ⟨_, _, outside, rfl, told⟩ := first
  obtain ⟨_, _, outside', rfl, told'⟩ := second
  have apart := equivalence key
  exact { worlds with
    outside := apart.trans (apart.symm (told key)) (apart.trans worlds.outside (told' key)) }

variable [Outside ε Rat] (apart : Apart k.service ids same)
  (plainly : ∀ auth, (k.healing auth).AuditsPlainly)
include apart plainly

theorem mirrors_lagging :
    Session.Mirrors (Lags lag) (Lagging k ids same key lag s t) key k.Heals
      k.settings.auditDirectory k.auditFile (Names ids key) where
  attuned := companions_lagging.toAttuned
  logs level message := by
    intro w v worlds
    obtain ⟨log, logged⟩ := Action.run_log level message w
    obtain ⟨log', logged'⟩ := Action.run_log level message v
    rw [logged, logged']
    exact ⟨.ok rfl, { worlds with }⟩
  sessions worlds := worlds.session ▸ worlds.served.alike
  knows worlds := worlds.named
  finds strategy value :=
    companions_lagging.pairs_perform
      (World.Lagging.reacts ((apart.finds key strategy value).showing _).respects)
  scripts script :=
    companions_lagging.pairs_perform
      (World.Lagging.reacts ((apart.scripts key script).showing _).respects)
  asks h heals inquiry sessionId about named := by
    obtain ⟨auth, rfl⟩ := heals
    exact companions_lagging.pairs_ask
      (World.Lagging.reacts (apart.inquiries key inquiry sessionId about named).respects)
  finishes r look p outcome heals := by
    obtain ⟨auth, healing⟩ := heals
    have audits : r.healing.AuditsPlainly := healing ▸ plainly auth
    have through : (r.through k.settings.auditDirectory k.auditFile look).healing =
        k.healing auth := by
      change r.healing.audited _ _ = _
      rw [healing]
      rfl
    have audits' := through ▸ plainly auth
    intro w v worlds
    obtain ⟨w', ends, filed⟩ :=
      Healing.Run.finish_filed apart.equivalence apart.appends audits p outcome w
    obtain ⟨v', ends', filed'⟩ :=
      Healing.Run.finish_filed apart.equivalence apart.appends audits' p outcome v
    rw [ends, ends']
    exact ⟨.ok rfl, worlds.filed apart.equivalence filed filed'⟩

end Own

section Others

/-- One world twice, in which another session is as it was once: what is shown of two runs from it
says what a single run keeps. -/
structure World.Beside (k : Worker ε Rat) (ids : String → Json) (same : String → ε → ε → Prop)
    (key other : String) (s : Session ε Rat) (outside : ε) (w v : World ε Rat) : Prop where
  once : w = v
  session : w.sessions other = s
  outside : same other outside w.outside
  served : (w.sessions key).ServedBy k
  named : Names ids key (w.sessions key).sessionId

variable {k : Worker ε Rat} {ids : String → Json} {same : String → ε → ε → Prop}
  {key other : String} {s : Session ε Rat} {outside : ε}

open World (Beside)

theorem World.Beside.modify {f : World ε Rat → World ε Rat}
    (keeps : ∀ w, Beside k ids same key other s outside w w →
      Beside k ids same key other s outside (f w) (f w)) :
    Pairs (Beside k ids same key other s outside) Eq (Action.modify f) (Action.modify f) := by
  refine pairs_modify fun w v worlds => ?_
  obtain rfl := worlds.once
  exact keeps w worlds

theorem World.Beside.modifySession {touched : String} (spares : touched ≠ other)
    {f : Session ε Rat → Session ε Rat} (serves : ∀ s, s.ServedBy k → (f s).ServedBy k)
    (names : ∀ s, Names ids key s.sessionId → Names ids key (f s).sessionId) :
    Pairs (Beside k ids same key other s outside) Eq (Action.modifySession touched f)
      (Action.modifySession touched f) := by
  refine World.Beside.modify fun w worlds => ?_
  refine { worlds with once := rfl, session := ?_, served := ?_, named := ?_ }
  · simpa only [if_neg spares.symm] using worlds.session
  · dsimp only
    split
    case isTrue here => exact serves _ (here ▸ worlds.served)
    case isFalse => exact worlds.served
  · dsimp only
    split
    case isTrue here => exact names _ (here ▸ worlds.named)
    case isFalse => exact worlds.named

private theorem attuned_beside : Attuned Eq (Beside k ids same key other s outside) where
  clock worlds := congrArg World.clock worlds.once
  later clocks worlds := by
    obtain rfl := clocks
    obtain rfl := worlds.once
    exact { worlds with once := rfl }
  notes event := World.Beside.modify fun w worlds => { worlds with once := rfl }
  sleeps worlds _ := by rw [worlds.once]

theorem World.Beside.happens {h : Happening Rat (FollowUp Rat)} (spares : h.Spares other) :
    Pairs (Beside k ids same key other s outside) Eq (Action.happen h) (Action.happen h) := by
  cases h with
  | elapse duration => exact attuned_beside.pairs_elapse duration
  | quit touched =>
    refine pairs_then (World.Beside.modifySession spares ?_ ?_) fun _ => attuned_beside.notes _
    · exact fun _ serves => serves
    · exact fun _ named => named
  | lose touched =>
    exact World.Beside.modifySession (f := fun s => { s with sessionId := .null }) spares
      (fun _ serves => serves) fun _ _ => .inr rfl
  | send further => exact attuned_beside.notes _

theorem World.Beside.calls {α : Type} {call : Call ε Rat α}
    (equivalence : ∀ key, Equivalence (same key)) (apart : other ≠ key)
    (confined : Confined same key call.exchange) :
    Pairs (Beside k ids same key other s outside) Eq (Action.perform call)
      (Action.perform call) := by
  refine attuned_beside.pairs_call ?_ fun s h there =>
    World.Beside.happens ((confined.spares other apart s).2 h there)
  intro w v worlds
  obtain rfl := worlds.once
  have told := (confined.spares other apart w.outside).1
  exact ⟨.ok rfl, { worlds with
    once := rfl, outside := (equivalence other).trans worlds.outside told }⟩

variable [Outside ε Rat] (apart : Apart k.service ids same) (different : other ≠ key)
  (plainly : ∀ auth, (k.healing auth).AuditsPlainly)
include apart different plainly

/-- All that is done for one session leaves another as it was. -/
private theorem mirrors_beside :
    Session.Mirrors Eq (Beside k ids same key other s outside) key k.Heals
      k.settings.auditDirectory k.auditFile (Names ids key) where
  attuned := attuned_beside
  logs level message := World.Beside.modify fun w worlds => by
    split
    · exact { worlds with once := rfl }
    · exact worlds
  sessions worlds := worlds.once ▸ worlds.served.alike
  knows worlds := worlds.named
  finds strategy value :=
    World.Beside.calls apart.equivalence different ((apart.finds key strategy value).showing _)
  scripts script :=
    World.Beside.calls apart.equivalence different ((apart.scripts key script).showing _)
  asks h heals inquiry sessionId about named := by
    obtain ⟨auth, rfl⟩ := heals
    refine pairs_then (attuned_beside.notes _) fun _ => ?_
    exact World.Beside.calls apart.equivalence different
      (apart.inquiries key inquiry sessionId about named)
  finishes r look p outcome heals := by
    obtain ⟨auth, healing⟩ := heals
    have audits : r.healing.AuditsPlainly := healing ▸ plainly auth
    have file : r.healing.auditFile = k.auditFile := by rw [healing]; rfl
    intro w v worlds
    obtain rfl := worlds.once
    rw [Healing.Run.finish_through file]
    obtain ⟨u, ends, log, files, now, rfl, told⟩ :=
      Healing.Run.finish_filed apart.equivalence apart.appends audits p outcome w
    rw [ends]
    exact ⟨.ok rfl, { worlds with
      once := rfl, outside := (apart.equivalence other).trans worlds.outside (told other) }⟩

theorem Session.lookup_beside {w : World ε Rat} (served : (w.sessions key).ServedBy k)
    (named : Names ids key (w.sessions key).sessionId) (strategy value : Json) :
    ((Session.lookup key strategy value).run w).2.sessions other = w.sessions other ∧
      same other w.outside ((Session.lookup key strategy value).run w).2.outside := by
  have worlds : w.Beside k ids same key other (w.sessions other) w.outside w :=
    ⟨rfl, rfl, (apart.equivalence other).refl _, served, named⟩
  obtain ⟨-, after⟩ :=
    (mirrors_beside apart different plainly).pairs_lookup strategy value w w worlds
  exact ⟨after.session, after.outside⟩

end Others

/-- All sessions are served by one worker, and go by their names. -/
def World.Served (k : Worker ε τ) (ids : String → Json) (w : World ε τ) : Prop :=
  ∀ key, (w.sessions key).ServedBy k ∧ Names ids key (w.sessions key).sessionId

theorem World.Served.modifySession {k : Worker ε τ} {ids : String → Json} (key : String)
    {f : Session ε τ → Session ε τ} (serves : ∀ s, s.ServedBy k → (f s).ServedBy k)
    (names : ∀ key s, Names ids key s.sessionId → Names ids key (f s).sessionId) :
    Keeps (fun w v => w.Served k ids → v.Served k ids)
      (Action.modifySession key f : Action ε τ Unit) := by
  intro w served other
  simp only [Action.modifySession, Action.run_modify]
  split
  case isTrue here =>
    subst here
    exact ⟨serves _ (served other).1, names _ _ (served other).2⟩
  case isFalse => exact served other

theorem sturdy_served (k : Worker ε τ) (ids : String → Json) :
    Sturdy fun w v : World ε τ => w.Served k ids → v.Served k ids where
  refl _ served := served
  trans first second served := second (first served)
  log _ _ _ served := served
  clock _ _ served := served
  trace _ _ served := served
  outside _ _ served := served
  closes key := World.Served.modifySession key (fun _ serves => serves) fun _ _ named => named
  loses key := World.Served.modifySession key (fun _ serves => serves) fun _ _ _ => .inr rfl

end LocatorHealing
