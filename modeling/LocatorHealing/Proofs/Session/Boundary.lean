import LocatorHealing.Proofs.Launch.Capabilities
import LocatorHealing.Proofs.Session.Admission

set_option autoImplicit false
set_option relaxedAutoImplicit false

/-!
Where faults come to an end. A launch and the set-up of sessions raise nothing. The set-up of one
session may raise a fault on its way, before the session's lookups are routed and never after that:
so it leaves the session without healing, and the sessions after it get their turn.
-/

namespace LocatorHealing

open LocatorHealing.Action (Keeps Gives gives_pure gives_bind gives_attempt gives_log gives_read
  gives_modify)

variable {ε τ : Type}

def Event.Requests : Event τ → Prop
  | .asked _ => True
  | .http _ => True
  | _ => False

/-- No lookup of a session is handed to healing. -/
def Session.Unhealed (s : Session ε τ) : Prop :=
  s.Routed fun _ _ => False

private theorem Session.gives_intercept (key : String) (p : Protocol ε τ)
    (options : HealingOptions) :
    Gives (fun _ => True) (intercept key p options : Action ε τ Bool) := by
  have adds : Gives (fun _ => True)
      (addMiddleware key interceptorName (.intercepting p options) : Action ε τ Bool) :=
    gives_bind (gives_read _) fun _ _ => gives_bind (gives_modify _) fun _ _ => gives_pure trivial
  refine gives_bind adds fun installed _ => ?_
  cases installed with
  | true => exact gives_pure trivial
  | false =>
    exact gives_bind (gives_read _) fun _ _ => gives_bind (gives_log _ _) fun _ _ =>
      gives_pure trivial

variable [Outside ε τ] [TimeScale τ]

private theorem Session.unrequested_lookup {key : String} {w : World ε τ}
    (unhealed : (w.sessions key).Unhealed) (strategy value : Json) :
    w.Adds (fun e => ¬e.Requests) ((lookup key strategy value).run w).2 := by
  have finds (strategy value : Json) : Keeps (World.Adds fun e => ¬e.Requests)
      (driverLookup key strategy value : Action ε τ Outcome) := by
    refine keeps_driverLookup_of .refl fun w _ => Action.adds_perform ?_ (fun event passes => ?_) w
    · rintro event ⟨⟩
      exact id
    · obtain ⟨other, rfl⟩ := Call.quit_of_passes passes
      exact id
  have notes (name : String) (strategy value : Json) : Keeps (World.Adds fun e => ¬e.Requests)
      (Action.note (.middleware name strategy value) : Action ε τ Unit) := by
    intro w
    refine ⟨[⟨w.clock, .middleware name strategy value⟩], rfl, fun e there => ?_⟩
    obtain rfl := List.mem_singleton.1 there
    exact id
  refine keeps_lookupThrough_of (frame_adds _) finds notes ?_ strategy value w
  exact fun name p options there => (unhealed name p options (List.mem_reverse.1 there)).elim

namespace Worker

variable {k : Worker ε τ} {options : HealingOptions} {key : String} {v u w : World ε τ}

private theorem middlewares_of_raised {fault : Fault}
    (raised : (k.setupSession options key).run v = (.error fault, u)) (other : String) :
    (u.sessions other).middlewares = (v.sessions other).middlewares := by
  have hR := sturdy_sameMiddlewares (ε := ε) (τ := τ)
  have kept {α : Type} {x : Action ε τ α} {a : Except Fault α} {v u : World ε τ}
      (keeps : Keeps World.SameMiddlewares x) (ran : x.run v = (a, u)) : v.SameMiddlewares u := by
    have same := keeps v
    rwa [ran] at same
  have routed (auth : AuthResult) (t : World ε τ) :
      (Session.intercept key (.healing (k.healing auth)) options).run t ≠ (.error fault, u) := by
    obtain ⟨_, _, ran, -⟩ := Session.gives_intercept key (.healing (k.healing auth)) options t
    rw [ran]
    exact nofun
  by_cases admitted : ∃ auth, k.Admits options (v.sessions key) auth
  case neg =>
    obtain ⟨log, alone⟩ := run_setupSession_refused (not_exists.1 admitted)
    rw [alone] at raised
    cases raised
  case pos =>
    obtain ⟨auth, admits⟩ := admitted
    rw [run_setupSession_admitted admits, prepare,
      Action.run_bind_ok (a := v.sessions key) (v := v) rfl] at raised
    obtain failed | ⟨_, t, bound, rest⟩ := Action.of_run_bind_error raised
    · exact kept (hR.keeps_ask _ _) failed other
    · refine Eq.trans ?_ (kept (hR.keeps_ask _ _) bound other)
      rw [Action.run_bind_ok (a := t.sessions key) (v := t) rfl] at rest
      split at rest
      · obtain failed | ⟨_, t', -, ends⟩ := Action.of_run_bind_error rest
        · exact kept (keeps_installCompanion hR.toFrame _ _ fun _ =>
            Session.keeps_installAddon hR _ _ _) failed other
        · exact absurd ends (routed auth t')
      · exact absurd rest (routed auth t)

/-- Every set-up of a session raises a fault. -/
def Raises (k : Worker ε τ) (options : HealingOptions) (capabilities : Json) (target : Target)
    (w : World ε τ) (key : String) : Prop :=
  ∀ v, k.Begins options capabilities target w key v →
    ∃ fault u, (k.setupSession options key).run v = (.error fault, u)

private theorem middlewares_of_raises {capabilities : Json} {target : Target}
    (raises : k.Raises options capabilities target w key) :
    (((k.selfHeal options capabilities target).run w).2.sessions key).middlewares =
      (w.sessions key).middlewares := by
  refine selfHeal_invariant (P := fun x => (x.sessions key).middlewares =
    (w.sessions key).middlewares) (fun _ _ _ same => same) rfl fun other v begins same => ?_
  refine Eq.trans ?_ same
  by_cases here : key = other
  · subst here
    obtain ⟨fault, u, raised⟩ := raises v begins
    rw [raised]
    exact middlewares_of_raised raised key
  · exact middlewares_setupSession_other here v

private theorem gives_selfHeal (k : Worker ε τ) (options : HealingOptions) (capabilities : Json)
    (target : Target) :
    Gives (fun _ => True) (k.selfHeal options capabilities target) := by
  refine gives_bind (gives_attempt _) fun ended _ => ?_
  cases ended with
  | ok _ => exact gives_pure trivial
  | error fault =>
    dsimp only
    split
    · exact gives_log _ _
    · exact gives_log _ _

private theorem selfHeal_each {capabilities : Json} {sessions chosen : List (String × String)}
    (selects : selected capabilities sessions = .ok chosen) (w : World ε τ) :
    (k.selfHeal options capabilities (.named sessions)).run w = (k.setupAll options chosen).run w ∧
    ∀ done p rest, chosen = done ++ p :: rest →
      let turn := ((k.setupAll options done).run w).2
      k.Begins options capabilities (.named sessions) w p.2 turn ∧
      ∃ log, (k.setupAll options (done ++ [p])).run w =
        (.ok (), { ((k.setupSession options p.2).run turn).2 with log }) := by
  have setUp : (k.setupTarget options capabilities (.named sessions)).run w =
      (k.setupAll options chosen).run w := by
    rw [setupTarget, Action.run_bind_ok (by rw [Action.run_ofExcept, selects])]
  refine ⟨?_, ?_⟩
  · obtain ⟨_, v, ran, -⟩ := k.gives_setupAll options chosen w
    rw [selfHeal, Action.run_bind_ok (Action.run_attempt _ _), setUp, ran]
    rfl
  · rintro done p rest rfl
    obtain ⟨log, last, -⟩ := k.setupAll_concat options done p w
    exact ⟨⟨done, p.1, rest, selects, rfl⟩, log, last⟩

end Worker

namespace Launcher

variable (l : Launcher ε τ) (config : LaunchConfig) (run : RunConfig) (options : HealingOptions)
  (capabilities : Json) (isMultiremote : Bool)

/-- A launch raises nothing. -/
private theorem gives_setup :
    Gives (fun _ => True) (l.setup config run options capabilities isMultiremote) := by
  refine gives_bind (gives_attemptSetup l config run options capabilities isMultiremote)
    fun r _ => ?_
  obtain ⟨left, fault?⟩ := r
  cases fault? with
  | none => exact gives_pure trivial
  | some fault => exact gives_bind (gives_log _ _) fun _ _ => gives_pure trivial

end Launcher

namespace Deal

variable {key : String} {w : World ε τ}

/-- Whatever set-up of a session begins in a deal, it raises a fault. -/
def Raises (key : String) (w : World ε τ) : Deal ε τ → Prop
  | selfHeal k options capabilities target => k.Raises options capabilities target w key
  | _ => True

private theorem middlewares_of_raises {d : Deal ε τ} (raises : d.Raises key w) :
    ((d.after w).sessions key).middlewares = (w.sessions key).middlewares := by
  cases d with
  | selfHeal k options capabilities target => exact Worker.middlewares_of_raises raises
  | _ =>
    rcases middlewares_after w _ key with same | ⟨-, puts⟩
    · exact same
    · exact puts.elim

private theorem middlewares_of_raised {steps : List (FileTree × Deal ε τ)}
    (raises : ∀ before files d rest, steps = before ++ (files, d) :: rest →
      d.Raises key { chronicle w before with files }) :
    ((chronicle w steps).sessions key).middlewares = (w.sessions key).middlewares := by
  induction steps generalizing w with
  | nil => rfl
  | cons step rest ih =>
    obtain ⟨files, d⟩ := step
    have first : ((d.after { w with files }).sessions key).middlewares =
        (w.sessions key).middlewares :=
      middlewares_of_raises (w := { w with files }) (raises [] files d rest rfl)
    refine Eq.trans (ih ?_) first
    rintro before files' d' rest' rfl
    exact raises ((files, d) :: before) files' d' rest' rfl

end Deal

/-- Faults end in the entry points. A launch comes to capabilities, and the set-up of sessions to
its end, whatever fails on the way. If the set-up of a session raises a fault, it has routed no
lookups; and a session that was not healed before a history, in which all its set-ups raise faults,
is not healed afterwards: its lookups take the way that they took before, which is the driver's if
there are no other middlewares, and send nothing to the service. Of sessions under names, each that
is selected is set up in its turn, whatever the set-ups before it raised. -/
theorem faults_contained (w : World ε τ) (options : HealingOptions) (capabilities : Json) :
    (∀ (l : Launcher ε τ) config run isMultiremote, ∃ left v,
      (l.setup config run options capabilities isMultiremote).run w = (.ok left, v)) ∧
    ∀ k : Worker ε τ,
      (∀ target, ∃ v, (k.selfHeal options capabilities target).run w = (.ok (), v)) ∧
      (∀ key v fault u, (k.setupSession options key).run v = (.error fault, u) →
        ∀ other, (u.sessions other).middlewares = (v.sessions other).middlewares) ∧
      (∀ key (steps : List (FileTree × Deal ε τ)), (w.sessions key).Unhealed →
        (∀ before files d rest, steps = before ++ (files, d) :: rest →
          d.Raises key { Deal.chronicle w before with files }) →
        let later := Deal.chronicle w steps
        (later.sessions key).Unhealed ∧ ∀ strategy value,
          (Session.lookup key strategy value).run later =
            (Session.lookupThrough key (w.sessions key).middlewares.reverse strategy value).run
              later ∧
          ((w.sessions key).middlewares = [] → (Session.lookup key strategy value).run later =
            (Session.driverLookup key strategy value).run later) ∧
          later.Adds (fun e => ¬e.Requests) ((Session.lookup key strategy value).run later).2) ∧
      ∀ sessions chosen, Worker.selected capabilities sessions = .ok chosen →
        (k.selfHeal options capabilities (.named sessions)).run w =
          (k.setupAll options chosen).run w ∧
        ∀ done p rest, chosen = done ++ p :: rest →
          let turn := ((k.setupAll options done).run w).2
          k.Begins options capabilities (.named sessions) w p.2 turn ∧
          ∃ log, (k.setupAll options (done ++ [p])).run w =
            (.ok (), { ((k.setupSession options p.2).run turn).2 with log }) := by
  refine ⟨fun l config run isMultiremote => ?_, fun k => ⟨fun target => ?_, ?_, ?_, ?_⟩⟩
  · obtain ⟨left, v, ran, -⟩ := l.gives_setup config run options capabilities isMultiremote w
    exact ⟨left, v, ran⟩
  · obtain ⟨_, v, ran, -⟩ := k.gives_selfHeal options capabilities target w
    exact ⟨v, ran⟩
  · exact fun key v fault u raised => Worker.middlewares_of_raised raised
  · intro key steps unhealed raises later
    have same : (later.sessions key).middlewares = (w.sessions key).middlewares :=
      Deal.middlewares_of_raised raises
    have still : (later.sessions key).Unhealed := by
      rwa [Session.Unhealed, Session.Routed, same]
    have way (strategy value : Json) : (Session.lookup key strategy value).run later =
        (Session.lookupThrough key (w.sessions key).middlewares.reverse strategy value).run
          later := by
      rw [← same]
      rfl
    refine ⟨still, fun strategy value => ⟨way strategy value, fun bare => ?_,
      Session.unrequested_lookup still strategy value⟩⟩
    rw [way, bare]
    rfl
  · exact fun sessions chosen selects => Worker.selfHeal_each selects w

section Concrete

def outOfReach : Service Still Rat where
  call
    | .token (.str "s1") _ _ => ⟨none, fun s => (⟨[], .error (.unreachable "refused")⟩, s)⟩
    | inquiry => ({} : Manner).service.call inquiry
  shows_request inquiry event shown := by
    split at shown
    · cases shown
    · exact ({} : Manner).service.shows_request _ event shown

def outOfReachWorker : Worker Still Rat :=
  { Deal.chromeWorker { isAuthenticated := true, isHealingEnabled := some true } with
    service := outOfReach }

/-- Two sessions, the first of which the service does not get to hear of. -/
def twinWorld : World Still Rat :=
  { Deal.chromeWorld with
    sessions := fun key =>
      { sessionId := .str (if key = "a" then "s1" else "s2")
        capabilities := [("browserName", .str "chrome")] } }

def twins : List (String × String) :=
  [("first", "a"), ("second", "b")]

def twinSteps : List (FileTree × Deal Still Rat) :=
  [(⟨[], []⟩, .selfHeal outOfReachWorker { selfHeal := true } .null (.named twins))]

/-- Of two sessions, the first is not attributed to the token, and goes on with its driver alone;
the second is healed. -/
theorem faults_contained_twins :
    let later := Deal.chronicle twinWorld twinSteps
    (∃ u, (outOfReachWorker.setupSession { selfHeal := true } "a").run twinWorld =
      (.error (.unreachable "refused"), u)) ∧
    (∀ strategy value, (Session.lookup "a" strategy value).run later =
      (Session.driverLookup "a" strategy value).run later) ∧
    (later.sessions "b").hasMiddleware Session.interceptorName = true := by
  have raised : ∃ u, (outOfReachWorker.setupSession { selfHeal := true } "a").run twinWorld =
      (.error (.unreachable "refused"), u) := ⟨_, Prod.ext rfl rfl⟩
  have healed : ((Deal.chronicle twinWorld twinSteps).sessions "b").hasMiddleware
      Session.interceptorName = true := rfl
  have raises :
      outOfReachWorker.Raises { selfHeal := true } .null (.named twins) twinWorld "a" := by
    rintro v ⟨before, name, after, selects, rfl⟩
    have chosen : twins = before ++ (name, "a") :: after := Except.ok.inj selects
    cases before with
    | nil => exact ⟨_, raised⟩
    | cons p before =>
      have second : (name, "a") ∈ [("second", "b")] := by
        rw [(List.cons.inj chosen).2]
        exact List.mem_append_right before List.mem_cons_self
      simp at second
  obtain ⟨-, contained⟩ := faults_contained twinWorld { selfHeal := true } .null
  obtain ⟨-, -, alone, -⟩ := contained outOfReachWorker
  obtain ⟨-, lookups⟩ := alone "a" twinSteps (fun _ _ _ => nofun) (by
    intro before files d rest split
    cases before with
    | nil =>
      cases split
      exact raises
    | cons step before => simp [twinSteps] at split)
  exact ⟨raised, fun strategy value => (lookups strategy value).2.1 rfl, healed⟩

end Concrete

end LocatorHealing
