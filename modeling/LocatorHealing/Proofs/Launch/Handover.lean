import LocatorHealing.Proofs.AuthResult
import LocatorHealing.Proofs.Launch.Frame
import LocatorHealing.Proofs.Still
import LocatorHealing.Worker

set_option autoImplicit false
set_option relaxedAutoImplicit false

/-!
What a launch hands over to its workers. A launch writes to one variable of the environment at most.
If it has authenticated, and the result can be handed on, a worker starts with that very result.
-/

namespace LocatorHealing

open LocatorHealing.Action (Keeps)

variable {ε τ : Type}

namespace World

def SameHandover (w v : World ε τ) : Prop :=
  v.environment = w.environment ∧ v.launched = w.launched

private theorem sturdy_sameHandover : Sturdy (SameHandover (ε := ε) (τ := τ)) where
  refl _ := ⟨rfl, rfl⟩
  trans first second := ⟨second.1.trans first.1, second.2.trans first.2⟩
  log _ _ _ := ⟨rfl, rfl⟩
  clock _ _ := ⟨rfl, rfl⟩
  trace _ _ := ⟨rfl, rfl⟩
  outside _ _ := ⟨rfl, rfl⟩
  closes _ _ := ⟨rfl, rfl⟩
  loses _ _ := ⟨rfl, rfl⟩

def SameBut (name : String) (w v : World ε τ) : Prop :=
  ∀ other, other ≠ name → v.environment.get? other = w.environment.get? other

private theorem sturdy_sameBut (name : String) : Sturdy (SameBut (ε := ε) (τ := τ) name) where
  refl _ _ _ := rfl
  trans first second other apart := (second other apart).trans (first other apart)
  log _ _ _ _ _ := rfl
  clock _ _ _ _ := rfl
  trace _ _ _ _ := rfl
  outside _ _ _ _ := rfl
  closes _ _ _ _ := rfl
  loses _ _ _ _ := rfl

end World

open World (SameHandover sturdy_sameHandover SameBut sturdy_sameBut)

variable {R : World ε τ → World ε τ → Prop} {warns : Prop}

private theorem Authentication.keeps_authenticate_of [TimeScale τ] (hR : Frame R warns)
    {service : Service ε τ} {settings : Settings τ} {user key : Option String}
    (asks : Keeps R
      (Action.ask service (.init key user settings.serviceUrl settings.clientVersion))) :
    Keeps R (Authentication.authenticate service settings user key) := by
  refine hR.keeps_bind (Frame.keeps_attempt asks) fun answer => ?_
  cases answer with
  | ok result => exact hR.keeps_pure _
  | error fault => exact hR.keeps_bind (hR.keeps_log _ _) fun _ => hR.keeps_ofExcept _

private theorem Authentication.keeps_authenticate [TimeScale τ] (hR : Sturdy R warns)
    (service : Service ε τ) (settings : Settings τ) (user key : Option String) :
    Keeps R (Authentication.authenticate service settings user key) :=
  keeps_authenticate_of hR.toFrame (hR.keeps_ask _ _)

namespace Launcher

variable [Outside ε τ] [TimeScale τ] (l : Launcher ε τ) (config : LaunchConfig) (run : RunConfig)
  (options : HealingOptions) (capabilities : Json) (isMultiremote : Bool) {w u : World ε τ}
  {credentials : Credentials} {auth : AuthResult}

private theorem after_attemptSetup (hR : Frame R warns) (w : World ε τ)
    (may : options.selfHeal = true → warns := by exact fun _ => trivial) :
    R ((l.attemptSetup config run options capabilities isMultiremote).run w).2
      ((l.setup config run options capabilities isMultiremote).run w).2 := by
  refine hR.after_bind (fun r => ?_) w
  obtain ⟨left, fault?⟩ := r
  cases fault? with
  | none => exact hR.keeps_pure left
  | some fault => exact hR.keeps_bind (hR.keeps_report options _ may) fun _ => hR.keeps_pure left

/-- A launch keeps a frame that is kept by its requests and by what it leaves behind: its result,
the result's text in the environment, warnings given and files remembered. -/
theorem keeps_setup_of (hR : Frame R warns)
    (asks : ∀ key user, Keeps R
      (Action.ask l.service (.init key user l.settings.serviceUrl l.settings.clientVersion)))
    (handles : ∀ auth, Keeps R
      (Instrumentation.handle l.sink auth run options.selfHeal : Action ε τ Unit))
    (encoded : ∀ (w : World ε τ) encoded, R w { w with encoded })
    (launched : ∀ (w : World ε τ) launched, R w { w with launched })
    (hands : ∀ (w : World ε τ) value,
      R w { w with environment := w.environment.put AuthResult.variableName value })
    (may : options.selfHeal = true → warns := by exact fun _ => trivial) :
    Keeps R (l.setup config run options capabilities isMultiremote) := by
  have authenticates (credentials : Credentials) : Keeps R (l.authenticate credentials) := by
    refine hR.keeps_bind (Authentication.keeps_authenticate_of hR (asks _ _)) fun auth => ?_
    refine hR.keeps_bind (fun w => launched w _) fun _ => ?_
    refine hR.keeps_bind (hR.keeps_ofExcept _) fun value => ?_
    exact hR.keeps_bind (fun w => hands w value) fun _ => hR.keeps_pure auth
  intro w
  refine hR.trans ?_
    (l.after_attemptSetup config run options capabilities isMultiremote hR w may)
  refine hR.keeps_bind (hR.keeps_read _) (fun environment => ?_) w
  split
  · exact hR.keeps_bind (hR.keeps_log _ _) fun _ => hR.keeps_pure _
  · refine hR.keeps_bind (Frame.keeps_attempt (authenticates _)) fun authenticated => ?_
    split
    · exact hR.keeps_pure _
    · exact keeps_injection_of hR encoded l _ _ _ _ (handles _) may _ _

theorem keeps_setup (hR : Sturdy R warns)
    (warned : ∀ (w : World ε τ) warned, R w { w with warned })
    (encoded : ∀ (w : World ε τ) encoded, R w { w with encoded })
    (launched : ∀ (w : World ε τ) launched, R w { w with launched })
    (hands : ∀ (w : World ε τ) value,
      R w { w with environment := w.environment.put AuthResult.variableName value })
    (may : options.selfHeal = true → warns := by exact fun _ => trivial) :
    Keeps R (l.setup config run options capabilities isMultiremote) :=
  l.keeps_setup_of config run options capabilities isMultiremote hR.toFrame
    (fun _ _ => hR.keeps_ask _ _) (fun _ => Instrumentation.keeps_handle hR warned _ _ _ _ may)
    encoded launched hands may

omit [Outside ε τ] in
private theorem run_authenticate (portable : auth.Portable)
    (authenticated : (Authentication.authenticate l.service l.settings (some credentials.user)
      (some credentials.key)).run w = (.ok auth, u)) :
    (l.authenticate credentials).run w =
      (.ok auth, { u with
        launched := some auth
        environment := u.environment.put AuthResult.variableName auth.toVariable }) := by
  rw [authenticate, Action.run_bind_ok authenticated]
  simp only [Action.run_bind, Action.run_modify, Action.andThen_ok, Action.run_ofExcept,
    Action.run_pure, AuthResult.exported_of_portable portable]

theorem handover_of_authenticate (portable : auth.Portable)
    (resolved : Credentials.resolve? config options w.environment = some credentials)
    (authenticated : (Authentication.authenticate l.service l.settings (some credentials.user)
      (some credentials.key)).run w = (.ok auth, u)) :
    ((l.setup config run options capabilities isMultiremote).run w).2.launched = some auth ∧
      ((l.setup config run options capabilities isMultiremote).run w).2.environment =
        w.environment.put AuthResult.variableName auth.toVariable := by
  have first := run_authenticate l portable authenticated
  have attempted : (l.attemptSetup config run options capabilities isMultiremote).run w =
      (if isMultiremote then l.augmentAll auth config run options capabilities
        else l.augmentPlain auth run options capabilities).run
          ((l.authenticate credentials).run w).2 := by
    simp [attemptSetup, resolved, first]
  have untouched := Authentication.keeps_authenticate sturdy_sameHandover l.service l.settings
    (some credentials.user) (some credentials.key) w
  rw [authenticated] at untouched
  have injected := keeps_injection sturdy_sameHandover (fun _ _ => ⟨rfl, rfl⟩)
    (fun _ _ => ⟨rfl, rfl⟩) l auth config run options (fun _ => trivial) capabilities isMultiremote
    ((l.authenticate credentials).run w).2
  have ended := l.after_attemptSetup config run options capabilities isMultiremote
    sturdy_sameHandover.toFrame w
  rw [← attempted] at injected
  have all := sturdy_sameHandover.trans injected ended
  rw [first] at all
  refine ⟨all.2, all.1.trans ?_⟩
  change u.environment.put _ _ = _
  rw [untouched.1]

private theorem setup_keeps_sameBut :
    Keeps (SameBut AuthResult.variableName)
      (l.setup config run options capabilities isMultiremote) := by
  refine keeps_setup l config run options capabilities isMultiremote
    (sturdy_sameBut AuthResult.variableName) (fun _ _ _ _ => rfl) (fun _ _ _ _ => rfl)
    (fun _ _ _ _ => rfl) fun w value other apart => ?_
  exact (Variables.get?_put _ _ _ _).trans (if_neg (Ne.symm apart))

end Launcher

def admitting (auth : AuthResult) : Service Still Rat where
  call
    | .init _ _ _ _ => ⟨none, fun s => (⟨[], .ok auth⟩, s)⟩
    | .token _ _ _ => ⟨none, fun s => (⟨[], .ok ()⟩, s)⟩
    | .log _ => ⟨none, fun s => (⟨[], .ok none⟩, s)⟩
    | .heal _ => ⟨none, fun s => (⟨[], .ok none⟩, s)⟩
    | .poll _ _ _ _ => ⟨none, fun s => (⟨[], .ok none⟩, s)⟩
  shows_request inquiry _ shown := by
    cases inquiry with
    | _ => cases shown

def admittingLauncher (auth : AuthResult) : Launcher Still Rat :=
  ⟨admitting auth, (Manner.healing {} auth).settings, .silent⟩

def runnerConfig : LaunchConfig :=
  { user := some "ada", key := some "secret" }

def freshWorld : World Still Rat :=
  Manner.world {} {} {} none "here"

def launchedWorld (auth : AuthResult) : World Still Rat :=
  (((admittingLauncher auth).setup runnerConfig {} {} .null false).run freshWorld).2

def overlongResult : AuthResult :=
  { status := some ((10 ^ Json.digitLimit : Nat) : Int) }

def halvedResult : AuthResult :=
  { isAuthenticated := true, message := some (Text.ofCodes [.half 0]) }

namespace Worker

/-- The file that a worker audits in, whose directory is made if need be. -/
def openAudit (settings : Settings τ) : Action ε τ (Option FilePath) :=
  match settings.auditDirectory.filter (· ≠ "") with
  | some directory => do return some (← Audit.openIn directory)
  | none => return none

theorem create_eq (service : Service ε τ) (settings : Settings τ) (auth : Option AuthResult) :
    Worker.create service settings auth = (do
      let auditFile ← openAudit settings
      Action.modify fun w => { w with level := settings.logLevel }
      return { service, settings, auth, auditFile }) := by
  unfold create openAudit
  cases settings.auditDirectory.filter (· ≠ "") with | _ => rfl

theorem settings_ofEnvironment {service : Service ε τ} {settings : Settings τ} {k : Worker ε τ}
    {w v : World ε τ} (started : (ofEnvironment service settings).run w = (.ok k, v)) :
    k.settings = settings := by
  obtain ⟨auth, _, -, created⟩ := Action.of_run_bind_ok started
  rw [create_eq] at created
  obtain ⟨file, _, -, rest⟩ := Action.of_run_bind_ok created
  obtain ⟨_, _, -, given⟩ := Action.of_run_bind_ok rest
  cases given
  rfl

theorem run_ofEnvironment {service : Service ε τ} {settings : Settings τ} {auth : AuthResult}
    (portable : auth.Portable) {t : World ε τ}
    (handed : t.environment.get? AuthResult.variableName = some auth.toVariable) :
    (Worker.ofEnvironment service settings).run t =
      (Worker.create service settings (some auth)).run t := by
  have taken : authOfEnvironment.run t = (.ok (some auth), t) := by
    simp [authOfEnvironment, handed, AuthResult.ofVariable_toVariable portable]
  exact Action.run_bind_ok taken

/-- What is written of a result is read back as it was, and what a launch leaves for its workers is
the launcher's own result: only the one variable is written, and a worker that is set up in the
environment of the launch is set up with that result. -/
theorem launched_result [Outside ε τ] [TimeScale τ] :
    (∀ a : AuthResult, a.Portable → ∃ value, a.exported = .ok value ∧
      AuthResult.ofVariable value = .ok (some a)) ∧
    ∀ (l : Launcher ε τ) (config : LaunchConfig) (run : RunConfig) (options : HealingOptions)
      (capabilities : Json) (isMultiremote : Bool) (w : World ε τ),
      World.SameBut AuthResult.variableName w
        ((l.setup config run options capabilities isMultiremote).run w).2 ∧
      ∀ (credentials : Credentials) (auth : AuthResult) (u : World ε τ),
        Credentials.resolve? config options w.environment = some credentials →
        (Authentication.authenticate l.service l.settings (some credentials.user)
          (some credentials.key)).run w = (.ok auth, u) →
        auth.Portable →
        ((l.setup config run options capabilities isMultiremote).run w).2.launched = some auth ∧
        ∀ (service : Service ε τ) (settings : Settings τ) (t : World ε τ), t.environment =
            ((l.setup config run options capabilities isMultiremote).run w).2.environment →
          (Worker.ofEnvironment service settings).run t =
            (Worker.create service settings
              ((l.setup config run options capabilities isMultiremote).run
                w).2.launched).run t := by
  refine ⟨fun a portable => ⟨a.toVariable, AuthResult.exported_of_portable portable,
    AuthResult.ofVariable_toVariable portable⟩, ?_⟩
  intro l config run options capabilities isMultiremote w
  refine ⟨l.setup_keeps_sameBut config run options capabilities isMultiremote w, ?_⟩
  intro credentials auth u resolved authenticated portable
  obtain ⟨launched, written⟩ := l.handover_of_authenticate config run options capabilities
    isMultiremote portable resolved authenticated
  refine ⟨launched, fun service settings t same => ?_⟩
  rw [launched]
  refine run_ofEnvironment portable ?_
  rw [same, written, Variables.get?_put, if_pos rfl]

/-- Quotes, control characters and letters beyond ASCII get through like any other text. -/
theorem launched_result_quoted :
    let auth : AuthResult := { status := some (-7), message := some "\"\\\u0001é😀" }
    (launchedWorld auth).launched = some auth ∧
    ∀ t : World Still Rat, t.environment = (launchedWorld auth).environment →
      (Worker.ofEnvironment (admitting {}) (admittingLauncher {}).settings).run t =
        (Worker.create (admitting {}) (admittingLauncher {}).settings
          (launchedWorld auth).launched).run t := by
  intro auth
  have portable : auth.Portable := by
    refine ⟨?_, by decide⟩
    intro n status
    obtain rfl := Option.some.inj status
    exact Nat.lt_of_lt_of_le (by decide : 7 < 10 ^ 1) (Nat.pow_le_pow_right (by decide) (by decide))
  obtain ⟨-, launches⟩ := @launched_result Still Rat _ _
  obtain ⟨-, hands⟩ :=
    launches (admittingLauncher auth) runnerConfig {} {} .null false freshWorld
  obtain ⟨launched, taken⟩ := hands ⟨"ada", "secret"⟩ auth _ rfl rfl portable
  exact ⟨launched, taken _ _⟩

/-- Two results do not get through. A status of one digit more than can be read is written, but its
text is refused; and where a text holds an unpaired surrogate, the launcher keeps a result of which
a worker hears nothing. -/
theorem launched_result_lost :
    AuthResult.ofVariable (AuthResult.toVariable overlongResult) ≠ .ok (some overlongResult) ∧
    (launchedWorld halvedResult).launched = some halvedResult ∧
    (authOfEnvironment.run (launchedWorld halvedResult)).1 = .ok none := by
  refine ⟨?_, rfl, rfl⟩
  intro read
  have readable := AuthResult.readable_of_ofVariable read _ rfl
  rw [Int.natAbs_natCast] at readable
  exact Nat.lt_irrefl _ readable

end Worker

end LocatorHealing
