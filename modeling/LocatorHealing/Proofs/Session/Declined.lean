import LocatorHealing.Proofs.Launch.Handover
import LocatorHealing.Proofs.Session.Admission

set_option autoImplicit false
set_option relaxedAutoImplicit false

/-!
Users who did not ask for healing. A launch gives them no warning, and neither do set-ups and
lookups, whatever fails on the way, but for one: a companion add-on that cannot be installed is
warned of whether healing was asked for or not.
-/

namespace LocatorHealing

open LocatorHealing.Action (Keeps)

variable {ε τ : Type}

/-- From one world to another, nothing was logged that is a warning or worse. -/
def World.Hushed (w v : World ε τ) : Prop :=
  Logged False w.log v.log

theorem sturdy_hushed : Sturdy (World.Hushed (ε := ε) (τ := τ)) False where
  refl w := .refl w.log
  trans first second := Logged.trans first second
  log _ _ logged := logged
  clock w _ := .refl w.log
  trace w _ := .refl w.log
  outside w _ := .refl w.log
  closes _ w := .refl w.log
  loses _ w := .refl w.log

variable [Outside ε τ] [TimeScale τ]

private theorem Launcher.hushed_setup (l : Launcher ε τ) (config : LaunchConfig) (run : RunConfig)
    {options : HealingOptions} (declined : options.selfHeal = false) (capabilities : Json)
    (isMultiremote : Bool) :
    Keeps World.Hushed (l.setup config run options capabilities isMultiremote) :=
  keeps_setup l config run options capabilities isMultiremote sturdy_hushed
    (fun w _ => .refl w.log) (fun w _ => .refl w.log) (fun w _ => .refl w.log)
    (fun w _ => .refl w.log) fun asked => Bool.noConfusion (declined.symm.trans asked)

namespace Session

/-- Whoever has the lookups of a session routed did not ask for healing. -/
def Declined (s : Session ε τ) : Prop :=
  s.Routed fun _ options => options.selfHeal = false

variable {key : String} {w : World ε τ}

private theorem hushed_lookup (declined : (w.sessions key).Declined) (strategy value : Json) :
    w.Hushed ((lookup key strategy value).run w).2 := by
  have handed (name : String) (p : Protocol ε τ) (options : HealingOptions)
      (there : (name, .intercepting p options) ∈ (w.sessions key).middlewares.reverse)
      (asked : options.selfHeal = true) : False :=
    Bool.noConfusion ((declined name p options (List.mem_reverse.1 there)).symm.trans asked)
  exact keeps_lookupThrough sturdy_hushed (fun w _ => .refl w.log) _ strategy value handed w

private theorem hushed_installCompanion (settings : Settings τ) (key : String) (w : World ε τ) :
    w.Hushed ((installCompanion settings key : Action ε τ Bool).run w).2 ∨
      ∃ t, (installCompanion settings key).run w = (.ok false, t) := by
  unfold installCompanion
  rw [Action.run_bind_ok (Action.run_read w World.files)]
  cases found : companionFile settings w.files with
  | error fault =>
    left
    rw [Action.run_bind_error (Action.run_ofExcept w _)]
    exact .refl w.log
  | ok file? =>
    rw [Action.run_bind_ok (Action.run_ofExcept w _)]
    cases file? with
    | none => exact .inr ⟨_, rfl⟩
    | some file =>
      dsimp only
      rw [Action.run_bind_ok (Action.run_attempt _ _)]
      have installs := keeps_installAddon sturdy_hushed key file.text (.bool true) w
      cases ((installAddon key file.text (.bool true)).run w).1 with
      | error fault => exact .inr ⟨_, rfl⟩
      | ok v =>
        refine .inl (sturdy_hushed.trans installs (sturdy_hushed.keeps_bind
          (sturdy_hushed.keeps_session key) (fun s => ?_) _))
        exact sturdy_hushed.keeps_bind (sturdy_hushed.keeps_log _ _) fun _ =>
          sturdy_hushed.keeps_pure true

end Session

namespace Worker

variable {k : Worker ε τ} {options : HealingOptions}

/-- Set up in a world, a session that needs the companion add-on does not get it. -/
def MissesCompanion (k : Worker ε τ) (key : String) (v : World ε τ) : Prop :=
  ∃ auth u t, k.auth = some auth ∧
    (Session.bindToken k.service k.settings (v.sessions key).sessionId auth.sessionToken).run v =
      (.ok (), u) ∧
    (u.sessions key).needsCompanion = true ∧
    (Session.installCompanion k.settings key).run u = (.ok false, t)

private theorem hushed_setupSession (key : String) (v : World ε τ) :
    v.Hushed ((k.setupSession options key).run v).2 ∨ k.MissesCompanion key v := by
  have hR := sturdy_hushed (ε := ε) (τ := τ)
  by_cases admitted : ∃ auth, k.Admits options (v.sessions key) auth
  case neg =>
    obtain ⟨log, alone, logged⟩ := logged_setupSession_refused (not_exists.1 admitted)
    left
    rw [alone]
    exact logged
  case pos =>
    obtain ⟨auth, admits⟩ := admitted
    rw [run_setupSession_admitted admits, prepare,
      Action.run_bind_ok (a := v.sessions key) (v := v) rfl]
    have asked := hR.keeps_ask k.service
      (.token (v.sessions key).sessionId auth.sessionToken k.settings.serviceUrl) v
    rcases bound : (Session.bindToken k.service k.settings (v.sessions key).sessionId
      auth.sessionToken).run v with ⟨fault | _, u⟩
    · left
      rw [Action.run_bind_error bound]
      exact (congrArg (v.Hushed ·.2) bound).mp asked
    · have first : v.Hushed u := (congrArg (v.Hushed ·.2) bound).mp asked
      have routes : Keeps World.Hushed
          (Session.intercept key (.healing (k.healing auth)) options : Action ε τ Bool) :=
        Session.keeps_intercept hR.toFrame fun w => .refl w.log
      rw [Action.run_bind_ok bound, Action.run_bind_ok (a := u.sessions key) (v := u) rfl]
      cases needs : (u.sessions key).needsCompanion with
      | false => exact .inl (hR.trans first (routes u))
      | true =>
        rcases Session.hushed_installCompanion k.settings key u with quiet | ⟨t, failed⟩
        · refine .inl (hR.trans first (hR.trans quiet ?_))
          exact hR.after_bind (fun _ => routes) u
        · exact .inr ⟨auth, u, t, admits.result, bound, needs, failed⟩

private theorem hushed_selfHeal (declined : options.selfHeal = false) (capabilities : Json)
    (target : Target) (w : World ε τ) :
    w.Hushed ((k.selfHeal options capabilities target).run w).2 ∨
      ∃ key v, k.Begins options capabilities target w key v ∧ k.MissesCompanion key v := by
  refine selfHeal_invariant (P := fun x => w.Hushed x ∨ ∃ key v,
    k.Begins options capabilities target w key v ∧ k.MissesCompanion key v) ?_
    (.inl (.refl w.log)) ?_
  · rintro v log logged (hushed | misses)
    · refine .inl (hushed.trans (logged.mono fun asked => ?_))
      exact Bool.noConfusion (declined.symm.trans asked)
    · exact .inr misses
  · rintro key v begins (hushed | misses)
    · rcases k.hushed_setupSession key v with quiet | misses
      · exact .inl (hushed.trans quiet)
      · exact .inr ⟨key, v, begins, misses⟩
    · exact .inr misses

end Worker

namespace Deal

/-- A deal for a user who did not ask for healing. -/
def Declines : Deal ε τ → Prop
  | selfHeal _ options _ _ => options.selfHeal = false
  | _ => True

variable {w : World ε τ}

/-- A deal in which a session is set up that misses its companion add-on. -/
def MissesCompanion (w : World ε τ) (d : Deal ε τ) : Prop :=
  ∃ k options capabilities target key v, d = .selfHeal k options capabilities target ∧
    k.Begins options capabilities target w key v ∧ k.MissesCompanion key v

private theorem hushed_after (d : Deal ε τ) (declines : d.Declines)
    (declined : ∀ key, (w.sessions key).Declined) :
    w.Hushed (d.after w) ∨ d.MissesCompanion w := by
  cases d with
  | selfHeal k options capabilities target =>
    refine (k.hushed_selfHeal declines capabilities target w).imp_right ?_
    rintro ⟨key, v, begins, misses⟩
    exact ⟨k, options, capabilities, target, key, v, rfl, begins, misses⟩
  | lookup key strategy value => exact .inl (Session.hushed_lookup (declined key) strategy value)
  | quit key => exact .inl (Session.keeps_quit sturdy_hushed key w)
  | lose key => exact .inl (sturdy_hushed.keeps_happen (.lose key) w)
  | meanwhile clock outside => exact .inl (.refl w.log)

/-- Users who did not ask for healing are not warned. A launch for them logs no warning, however it
goes; and in no history of their sessions does a set-up or a lookup log one, but for set-ups in
which a companion add-on cannot be installed. -/
theorem declined_unwarned (l : Launcher ε τ) (config : LaunchConfig) (run : RunConfig)
    {options : HealingOptions} (declined : options.selfHeal = false)
    {steps : List (FileTree × Deal ε τ)} (declines : ∀ step ∈ steps, step.2.Declines)
    (sessions : ∀ key, (w.sessions key).Declined) :
    (∀ capabilities isMultiremote (u : World ε τ),
      u.Hushed ((l.setup config run options capabilities isMultiremote).run u).2) ∧
    ∀ before files d rest, steps = before ++ (files, d) :: rest →
      let now := { chronicle w before with files }
      now.Hushed (d.after now) ∨ d.MissesCompanion now := by
  refine ⟨l.hushed_setup config run declined, ?_⟩
  rintro before files d rest rfl
  have routes : ∀ step ∈ before, step.2.Routes fun _ options => options.selfHeal = false := by
    intro step there
    have declined := declines step (List.mem_append_left _ there)
    obtain ⟨files, d⟩ := step
    cases d with
    | selfHeal k options capabilities target => exact fun _ _ => declined
    | _ => trivial
  have earlier := routed_chronicle routes sessions
  exact hushed_after (w := { chronicle w before with files }) d
    (declines (files, d) (List.mem_append_right before List.mem_cons_self)) earlier

def loggingAuth : AuthResult :=
  { isAuthenticated := true, defaultLogDataEnabled := some true }

/-- A session is set up for a user who did not ask for healing, and has a lookup that fails. -/
def loggingSteps : List (FileTree × Deal Still Rat) :=
  [(⟨[], []⟩, .selfHeal (chromeWorker loggingAuth) {} .null (.one "s")),
    (⟨[], []⟩, .lookup "s" (.str "id") (.str "gone"))]

/-- The lookup is routed, and nobody is warned. -/
theorem declined_unwarned_logging :
    let installed := chronicle chromeWorld (loggingSteps.take 1)
    (installed.sessions "s").hasMiddleware Session.interceptorName = true ∧
    { installed with files := ⟨[], []⟩ }.Hushed (chronicle chromeWorld loggingSteps) ∧
    freshWorld.Hushed (((admittingLauncher loggingAuth).setup runnerConfig {} {}
      (.obj [("browserName", .str "chrome")]) false).run freshWorld).2 := by
  intro installed
  have declines : ∀ step ∈ loggingSteps, step.2.Declines := by
    simp [loggingSteps, Declines]
  obtain ⟨launch, steps⟩ := declined_unwarned (w := chromeWorld)
    (admittingLauncher loggingAuth) runnerConfig {}
    (rfl : ({} : HealingOptions).selfHeal = false) declines fun key name p options there => by
      cases there
  refine ⟨rfl, ?_, launch _ _ _⟩
  rcases steps (loggingSteps.take 1) _ _ [] rfl with hushed | ⟨_, _, _, _, _, _, same, _⟩
  · exact hushed
  · cases same

/-- A session with a browser that needs the companion add-on, and a worker that has none. -/
def firefoxWorld : World Still Rat :=
  { chromeWorld with
    sessions := fun _ =>
      { sessionId := .str "s1", capabilities := [("browserName", .str "firefox")] } }

def firefoxWorker : Worker Still Rat :=
  { chromeWorker loggingAuth with
    settings := { (chromeWorker loggingAuth).settings with supportedBrowsers := ["firefox"] } }

/-- Without the companion add-on, a user is warned who did not ask for healing. -/
theorem declined_warned :
    let d : Deal Still Rat := .selfHeal firefoxWorker {} .null (.one "s")
    d.Declines ∧ (∀ key, (firefoxWorld.sessions key).Declined) ∧ firefoxWorld.log = [] ∧
      (d.after firefoxWorld).log = [(.warning,
        "Companion add-on not found at None; healing for session s1 is limited to usage logging")] ∧
      ¬firefoxWorld.Hushed (d.after firefoxWorld) := by
  intro d
  have logged : (d.after firefoxWorld).log = [(.warning,
      "Companion add-on not found at None; healing for session s1 is limited to usage logging")] :=
    rfl
  refine ⟨rfl, fun key name p options there => (by cases there), rfl, logged, ?_⟩
  rintro ⟨more, grown, quiet⟩
  rw [logged] at grown
  obtain rfl : more = _ := grown.symm
  exact (quiet _ List.mem_cons_self).elim nofun id

end Deal

end LocatorHealing
