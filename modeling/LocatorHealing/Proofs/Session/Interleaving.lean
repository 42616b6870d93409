import LocatorHealing.Proofs.Files.Growth
import LocatorHealing.Proofs.Launch.Handover
import LocatorHealing.Proofs.Session.Apart
import LocatorHealing.Proofs.Session.History

set_option autoImplicit false
set_option relaxedAutoImplicit false

/-!
Lookups in several sessions, one after the other. What is seen of the lookups in one session is the
same as if they were made alone: their outcomes, and all that is done for them, with the time since
each of them began.
-/

namespace LocatorHealing

variable {ε : Type}

/-- A call for a lookup in a session. -/
structure LookupCall where
  session : String
  strategy : Json
  value : Json

/-- A lookup that is asked for some time after the one before has ended. -/
structure Turn extends LookupCall where
  pause : Rat

/-- What is seen of a lookup: what it comes to, and what is done for it when. -/
structure Sight where
  outcome : Except Fault Outcome
  deeds : List (TraceEntry Rat)

namespace Turn

section Sights

variable (turn : Turn)

def start (w : World ε Rat) : World ε Rat :=
  { w with clock := w.clock + turn.pause }

variable [Outside ε Rat]

def run (w : World ε Rat) : Except Fault Outcome × World ε Rat :=
  (Session.lookup turn.session turn.strategy turn.value).run (turn.start w)

def sight (w : World ε Rat) : Sight where
  outcome := (turn.run w).1
  deeds := ((turn.run w).2.trace.drop w.trace.length).map fun entry =>
    { entry with clock := entry.clock - (turn.start w).clock }

def sights (key : String) : List Turn → World ε Rat → List Sight
  | [], _ => []
  | turn :: rest, w =>
    if turn.session = key then turn.sight w :: sights key rest (turn.run w).2
    else sights key rest (turn.run w).2

end Sights

variable [Outside ε Rat] {k : Worker ε Rat} {ids : String → Json} {same : String → ε → ε → Prop}
  (apart : Apart k.service ids same) (plainly : ∀ auth, (k.healing auth).AuditsPlainly)
  {w v : World ε Rat} (served : w.Served k ids)

include served in
private theorem served_run (turn : Turn) : (turn.run w).2.Served k ids :=
  Session.keeps_lookup (sturdy_served k ids) (fun _ _ served => served) turn.strategy turn.value
    (turn.start w) served

include apart plainly

/-- A session sees the same of a lookup of its own in two worlds that it cannot tell apart, and
cannot tell them apart afterwards. -/
private theorem sight_eq {turn turn' : Turn} (asked : turn'.toLookupCall = turn.toLookupCall)
    (serves : (w.sessions turn.session).ServedBy k)
    (named : Names ids turn.session (w.sessions turn.session).sessionId)
    (session : v.sessions turn.session = w.sessions turn.session)
    (outside : same turn.session w.outside v.outside) :
    turn'.sight v = turn.sight w ∧
      (turn'.run v).2.sessions turn.session = (turn.run w).2.sessions turn.session ∧
      same turn.session (turn.run w).2.outside (turn'.run v).2.outside := by
  obtain ⟨⟨key, strategy, value⟩, pause⟩ := turn
  obtain ⟨_, pause'⟩ := turn'
  obtain rfl := asked
  let lag : Rat := v.clock + pause' - (w.clock + pause)
  have clock : v.clock + pause' = w.clock + pause + lag := by ring
  have worlds : World.Lagging k ids same key lag w.trace v.trace
      { w with clock := w.clock + pause } { v with clock := v.clock + pause' } :=
    { clock, session, served := serves, named, outside
      trace := ⟨[], by simp, by simp⟩ }
  obtain ⟨ends, after⟩ := (mirrors_lagging apart plainly).pairs_lookup strategy value _ _ worlds
  refine ⟨?_, after.session, after.outside⟩
  obtain ⟨new, grown, likewise⟩ := after.trace
  have outcomes : (run ⟨⟨key, strategy, value⟩, pause'⟩ v).1 =
      (run ⟨⟨key, strategy, value⟩, pause⟩ w).1 := ends.eq.symm
  have grown : (run ⟨⟨key, strategy, value⟩, pause⟩ w).2.trace = w.trace ++ new := grown
  have likewise : (run ⟨⟨key, strategy, value⟩, pause'⟩ v).2.trace =
      v.trace ++ new.map (TraceEntry.after lag) := likewise
  have times (reading : Rat) :
      reading + lag - (v.clock + pause') = reading - (w.clock + pause) := by
    rw [clock]
    ring
  unfold sight
  rw [outcomes, grown, likewise, List.drop_left, List.drop_left, List.map_map]
  congr 1
  refine List.map_congr_left fun entry _ => ?_
  simp only [Function.comp_apply, TraceEntry.after, start, times]

private theorem run_beside {turn : Turn} {key : String} (different : key ≠ turn.session)
    (serves : (w.sessions turn.session).ServedBy k)
    (named : Names ids turn.session (w.sessions turn.session).sessionId) :
    (turn.run w).2.sessions key = w.sessions key ∧
      same key w.outside (turn.run w).2.outside :=
  Session.lookup_beside (w := turn.start w) apart different plainly serves named turn.strategy
    turn.value

/-- Two worlds that a session cannot tell apart show it the same, if it makes the same lookups in
them. -/
private theorem sights_eq (served : w.Served k ids) (key : String)
    (session : v.sessions key = w.sessions key) (outside : same key w.outside v.outside)
    {turns alone : List Turn}
    (own : alone.map toLookupCall =
      (turns.filter fun turn => turn.session = key).map toLookupCall) :
    sights key alone v = sights key turns w := by
  -- A turn of the session is taken in both worlds, and the turn of another in one of them alone.
  induction turns generalizing alone w v with
  | nil =>
    obtain rfl : alone = [] := List.map_eq_nil_iff.1 own
    rfl
  | cons turn turns ih =>
    have serves := served turn.session
    by_cases here : turn.session = key
    · subst here
      rw [List.filter_cons_of_pos (by simp), List.map_cons] at own
      obtain ⟨first, rest, rfl, asked, others⟩ := List.map_eq_cons_iff.1 own
      have stands : first.session = turn.session := congrArg LookupCall.session asked
      obtain ⟨seen, session, outside⟩ :=
        sight_eq apart plainly asked serves.1 serves.2 session outside
      rw [sights, sights, if_pos stands, if_pos rfl, seen,
        ih (served_run served turn) session outside others]
    · rw [List.filter_cons_of_neg (by simpa using here)] at own
      obtain ⟨unchanged, unnoticed⟩ :=
        run_beside apart plainly (Ne.symm here) serves.1 serves.2
      have equivalence := apart.equivalence key
      rw [sights, if_neg here]
      exact ih (served_run served turn) (session.trans unchanged.symm)
        (equivalence.trans (equivalence.symm unnoticed) outside) own

end Turn

/-- Sessions that are set up with a worker are served by it. -/
theorem Worker.served_selfHeal {τ : Type} [Outside ε τ] [TimeScale τ] {k : Worker ε τ}
    {options : HealingOptions} {w : World ε τ} (served : ∀ key, (w.sessions key).ServedBy k)
    (capabilities : Json) (target : Target) (key : String) :
    (((k.selfHeal options capabilities target).run w).2.sessions key).ServedBy k := by
  have installs := keeps_selfHeal (sturdy_installs k options)
    (fun key _ result => keeps_intercept result key) capabilities target w key
  obtain same | ⟨auth, -, -, appended⟩ := installs
  · rw [Session.ServedBy, same]
    exact served key
  · rw [Session.ServedBy, appended, List.forall_mem_append]
    exact ⟨served key, List.forall_mem_singleton.2 ⟨auth, rfl⟩⟩

private theorem Audit.fit_of_openIn {τ : Type} {directory : String} {file : FilePath}
    {w v : World ε τ} (opened : (Audit.openIn directory).run w = (.ok file, v)) :
    FileTree.unfit? file = none := by
  obtain ⟨_, _, -, rest⟩ := Action.of_run_bind_ok opened
  obtain ⟨_, _, makes, rest⟩ := Action.of_run_bind_ok rest
  obtain ⟨_, _, -, given⟩ := Action.of_run_bind_ok rest
  cases given
  rw [Action.run_ofExcept] at makes
  obtain ⟨made, -⟩ := Prod.mk.inj makes
  exact FileTree.unfit?_child (FileTree.makeDirectories_fit made) (by decide)

/-- However a worker is set up, its lookups are audited plainly, where the disk refuses plainly. -/
theorem Worker.auditsPlainly_create {τ : Type} [Outside ε τ] {k : Worker ε τ}
    {service : Service ε τ} {settings : Settings τ} {auth? : Option AuthResult} {w v : World ε τ}
    (created : (Worker.create service settings auth?).run w = (.ok k, v))
    (disk : ∀ path line (s : ε) fault,
      (Outside.append path line s).1 = some fault → fault.isSystem = true)
    (auth : AuthResult) : (k.healing auth).AuditsPlainly := by
  refine Healing.auditsPlainly_of_fit (fun file there => ?_) fun file _ => disk file.text
  rw [Worker.create_eq] at created
  obtain ⟨file?, _, opens, rest⟩ := Action.of_run_bind_ok created
  obtain ⟨_, _, -, given⟩ := Action.of_run_bind_ok rest
  cases given
  obtain rfl : file? = some file := there
  unfold Worker.openAudit at opens
  split at opens
  case h_1 =>
    obtain ⟨_, _, opened, given⟩ := Action.of_run_bind_ok opens
    cases given
    exact Audit.fit_of_openIn opened
  case h_2 => cases opens

/-- Sessions that share a worker do not influence each other. Let the world outside answer the calls
for each session by what was called for it before, and let the sessions be served by one worker.
However their lookups follow each other, and however much time passes between them, each session
sees of its own what it would see if they were made alone: the same outcomes, and the same commands,
requests and sleeps, after the same time since each lookup began. -/
theorem Worker.sessions_independent [Outside ε Rat] {k : Worker ε Rat} {w : World ε Rat}
    {same : String → ε → ε → Prop}
    (apart : Apart k.service (fun key => (w.sessions key).sessionId) same)
    (plainly : ∀ auth, (k.healing auth).AuditsPlainly) (served : ∀ key, (w.sessions key).ServedBy k)
    (key : String) {v : World ε Rat} (session : v.sessions key = w.sessions key)
    (outside : same key w.outside v.outside) {turns alone : List Turn}
    (own : alone.map Turn.toLookupCall =
      (turns.filter fun turn => turn.session = key).map Turn.toLookupCall) :
    Turn.sights key turns w = Turn.sights key alone v := by
  have all : w.Served k fun key => (w.sessions key).sessionId :=
    fun other => ⟨served other, .inl rfl⟩
  exact (Turn.sights_eq apart plainly all key session outside own).symm

/-- A world outside that counts the calls of every session. -/
structure Ledger where
  calls : String → Nat

namespace Ledger

def counted (l : Ledger) (name : String) : Ledger where
  calls other := if other = name then l.calls name + 1 else l.calls other

instance : Outside Ledger Rat where
  checksRequests := true
  nesting := .least
  send _ l := (⟨[], .ok (.reply 200 [])⟩, l)
  find key strategy value l :=
    (⟨[], Still.answerOf (Still.pageWith "healed") strategy value⟩, l.counted key)
  runScript key _ _ l := (⟨[], .ok .null⟩, l.counted key)
  installAddon _ _ _ l := (⟨[], .ok .null⟩, l)
  quit _ l := (⟨[], .ok ()⟩, l)
  emit _ _ l := (⟨[], .ok ()⟩, l)
  start _ _ l := (⟨[], .ok ⟨.null, []⟩⟩, l)
  append _ _ l := (none, l)

/-- A poll takes the longer the more calls there were, and finds a locator every other time. -/
def exchange (calls : Nat) : (inquiry : Inquiry Rat) → Exchange Rat (FollowUp Rat) inquiry.Answer
  | .init _ _ _ _ => ⟨[], .ok {}⟩
  | .token _ _ _ => ⟨[], .ok ()⟩
  | .log _ => ⟨[], .ok none⟩
  | .heal _ => ⟨[], .ok (some "mark()")⟩
  | .poll _ _ _ _ =>
    ⟨[.elapse calls], .ok (if calls % 2 = 0 then some ⟨"id", "healed", "id"⟩ else none)⟩

def service : Service Ledger Rat where
  call inquiry := ⟨none, fun l =>
    match inquiry.sessionId? with
    | some (.str name) => (exchange (l.calls name) inquiry, l.counted name)
    | _ => (exchange 0 inquiry, l)⟩
  shows_request _ _ shown := by cases shown

/-- Two ledgers in which a session has made as many calls. -/
def Same (key : String) (l l' : Ledger) : Prop :=
  l.calls key = l'.calls key

/-- A call is confined to a session if it takes time alone, and that by what the session has
called. -/
theorem confined {ρ α : Type} {key : String} {f : Ledger → Exchange Rat ρ α × Ledger}
    (g : Nat → Exchange Rat ρ α) (takes : ∀ l, f l = (g (l.calls key), l.counted key))
    (elapses : ∀ n, ∀ h ∈ (g n).happenings, ∃ duration, h = .elapse duration) :
    Confined Same key f where
  respects l l' same := by
    rw [Same] at same
    rw [takes, takes, same]
    exact ⟨rfl, by simp [Same, counted, same]⟩
  spares other different l := by
    rw [takes]
    refine ⟨by simp [Same, counted, different], fun h there => ?_⟩
    obtain ⟨duration, rfl⟩ := elapses _ h there
    trivial

private theorem elapses_exchange (n : Nat) (inquiry : Inquiry Rat) :
    ∀ h ∈ (exchange n inquiry).happenings, ∃ duration, h = .elapse duration := by
  intro h there
  cases inquiry with
  | poll => exact ⟨n, List.mem_singleton.1 there⟩
  | _ => cases there

theorem apart : Apart service Json.str Same where
  equivalence key := ⟨fun _ => rfl, Eq.symm, Eq.trans⟩
  finds key strategy value :=
    confined (fun _ => ⟨[], Still.answerOf (Still.pageWith "healed") strategy value⟩)
      (fun _ => rfl) fun _ => nofun
  scripts key script := confined (fun _ => ⟨[], .ok .null⟩) (fun _ => rfl) fun _ => nofun
  inquiries key inquiry sessionId about named := by
    obtain rfl | rfl := named
    · refine confined (exchange · inquiry) (fun l => ?_) fun n => elapses_exchange n inquiry
      simp only [service, about]
    · have still (l : Ledger) : (service.call inquiry).exchange l = (exchange 0 inquiry, l) := by
        simp only [service, about]
      refine ⟨fun l l' same => ?_, fun other _ l => ?_⟩
      · rw [still, still]
        exact ⟨rfl, same⟩
      · rw [still]
        refine ⟨rfl, fun h there => ?_⟩
        obtain ⟨duration, rfl⟩ := elapses_exchange 0 inquiry h there
        trivial
  appends _ _ _ _ := rfl

def worker : Worker Ledger Rat where
  service
  settings := (Manner.healing {} {}).settings
  auth := some { isHealingEnabled := some true }
  auditFile := some Manner.auditFile

theorem auditsPlainly (auth : AuthResult) : (worker.healing auth).AuditsPlainly := by
  refine Healing.auditsPlainly_of_fit (fun file there => ?_)
    fun _ _ _ _ _ refused => nomatch refused
  cases there
  rfl

def world : World Ledger Rat where
  clock := 0
  timestamp := "2024-01-01T00:00:00+00:00"
  level := .info
  log := []
  trace := []
  sessions key :=
    { sessionId := .str key, capabilities := []
      middlewares := [(Session.interceptorName, .intercepting
        (.healing (worker.healing { isHealingEnabled := some true })) { selfHeal := true })] }
  files := ⟨[], []⟩
  environment := []
  launched := none
  warned := []
  encoded := []
  outside := ⟨fun _ => 0⟩

def turn (session value : String) (pause : Rat) : Turn :=
  { session, strategy := .str "id", value := .str value, pause }

def interleaved : List Turn :=
  [turn "a" "x" 0, turn "b" "y" 5, turn "a" "z" 1]

end Ledger

/-- What one session sees among the lookups of another. -/
theorem Worker.sessions_independent_ledger :
    Apart Ledger.worker.service (fun key => (Ledger.world.sessions key).sessionId) Ledger.Same ∧
      (∀ key, (Ledger.world.sessions key).ServedBy Ledger.worker) ∧
      Turn.sights "a" Ledger.interleaved Ledger.world =
        Turn.sights "a" [Ledger.turn "a" "x" 7, Ledger.turn "a" "z" 0] Ledger.world := by
  have served (key : String) : (Ledger.world.sessions key).ServedBy Ledger.worker :=
    List.forall_mem_singleton.2 ⟨_, rfl⟩
  have apart :
      Apart Ledger.worker.service (fun key => (Ledger.world.sessions key).sessionId) Ledger.Same :=
    Ledger.apart
  have own : [Ledger.turn "a" "x" 7, Ledger.turn "a" "z" 0].map Turn.toLookupCall =
      (Ledger.interleaved.filter fun turn => turn.session = "a").map Turn.toLookupCall := rfl
  exact ⟨apart, served, Worker.sessions_independent (v := Ledger.world) apart Ledger.auditsPlainly
    served "a" rfl rfl own⟩

/-- The time that is left for each poll, in the first and in the second lookup. -/
example : (Turn.sights "a" Ledger.interleaved Ledger.world).map (fun sight =>
    sight.deeds.filterMap fun entry =>
      match entry.event with
      | .asked (.poll _ _ _ left) => left
      | _ => none) = [[60, 56], [60, 50]] := by
  decide +kernel

end LocatorHealing
