import LocatorHealing.Proofs.Launch.Capabilities
import LocatorHealing.Proofs.Session.Admission
import LocatorHealing.Proofs.Text.Case

set_option autoImplicit false
set_option relaxedAutoImplicit false

/-!
Which sessions of a launch with several named entries get healing. The launcher decides by the
entry: by its browser, and by whether it runs on the provider's infrastructure. A worker decides by
the session, which has a browser and no host. So a session that a worker takes has an eligible entry
unless that entry runs on the provider's infrastructure.
-/

namespace LocatorHealing

open LocatorHealing.Action (Keeps Gives gives_pure gives_bind gives_attempt gives_ofExcept gives_log
  gives_read)

variable {ε τ : Type}

namespace Capability

variable {settings : Settings τ} {entry : Json} {inner : Members}

/-- The browser of an entry is named by a text. -/
def NamesBrowser (entry : Json) : Prop :=
  ∃ inner name, inner? entry = some inner ∧ inner.get? "browserName" = some (.str name)

private theorem isEligible_of_inner (held : inner? entry = some inner) :
    isEligible settings entry = (do
      if ← settings.supportsBrowser ((inner.get? "browserName").getD .null) then
        return !(← settings.isProviderEntry entry)
      else return false) := by
  unfold inner? at held
  split at held
  case h_1 m =>
    split at held
    case h_1 set found =>
      cases held
      have here : (Members.get? m "capabilities").getD (.obj m) = .obj inner := by rw [found]; rfl
      change ((Members.get? m "capabilities").getD (.obj m)).membersFor "get" >>= _ = _
      rw [here]
      rfl
    case h_2 => cases held
  case h_2 => cases held

/-- An entry with a supported browser is eligible unless it runs on the provider's
infrastructure. -/
private theorem isEligible_iff_of_supported (held : inner? entry = some inner)
    (supported : settings.supportsBrowser ((inner.get? "browserName").getD .null) = .ok true) :
    isEligible settings entry = .ok true ↔ settings.isProviderEntry entry = .ok false := by
  rw [isEligible_of_inner held, supported]
  cases settings.isProviderEntry entry with
  | error fault => exact ⟨nofun, nofun⟩
  | ok b => cases b with
    | false => exact ⟨fun _ => rfl, fun _ => rfl⟩
    | true => exact ⟨nofun, nofun⟩

private theorem namesBrowser_of_isEligible (held : inner? entry = some inner)
    (eligible : isEligible settings entry = .ok true) : NamesBrowser entry := by
  rw [isEligible_of_inner held] at eligible
  cases named : inner.get? "browserName" with
  | none =>
    rw [named] at eligible
    cases eligible
  | some v =>
    rw [named, Option.getD_some] at eligible
    cases v with
    | str name => exact ⟨inner, name, held, named⟩
    | _ =>
      unfold Settings.supportsBrowser at eligible
      split at eligible <;> cases eligible

/-- A session whose browser is named as in an entry, and is supported, has an eligible entry just if
the name is a text and the entry does not run on the provider's infrastructure. -/
private theorem isEligible_iff_of_session {s : Session ε τ} (held : inner? entry = some inner)
    (same : s.capabilities.get? "browserName" = inner.get? "browserName")
    (supported : settings.supportsBrowser (.str s.browserName) = .ok true) :
    isEligible settings entry = .ok true ↔
      NamesBrowser entry ∧ settings.isProviderEntry entry = .ok false := by
  have entrySupported : NamesBrowser entry →
      settings.supportsBrowser ((inner.get? "browserName").getD .null) = .ok true := by
    rintro ⟨other, name, held', named⟩
    obtain rfl := Option.some.inj (held.symm.trans held')
    rw [Session.browserName, same, named] at supported
    rw [named, Option.getD_some, Worker.supportsBrowser_text]
    by_cases empty : name = ""
    · subst empty
      cases supported
    · -- the session's name is the entry's in lower case, which lower case does not change
      simp only [Json.truthy, bne_iff_ne, ne_eq, empty, not_false_eq_true, if_true, Json.display,
        Worker.supportsBrowser_text, Text.lower_lower, Except.ok.injEq, Bool.and_eq_true]
        at supported ⊢
      exact ⟨trivial, supported.2⟩
  constructor
  · intro eligible
    have names := namesBrowser_of_isEligible held eligible
    exact ⟨names, (isEligible_iff_of_supported held (entrySupported names)).1 eligible⟩
  · rintro ⟨names, outside⟩
    exact (isEligible_iff_of_supported held (entrySupported names)).2 outside

end Capability

variable [Outside ε τ] [TimeScale τ]

namespace Launcher

variable (l : Launcher ε τ) (config : LaunchConfig) (run : RunConfig) (options : HealingOptions)

/-- Unless an entry is eligible, it is left as it was. -/
def KeepsIneligible (settings : Settings τ) (entry left : Json) : Prop :=
  Capability.isEligible settings entry ≠ .ok true → left = entry

private theorem gives_augmentEntry_ineligible (auth : AuthResult) (name : String) (entry : Json) :
    Gives (fun r => KeepsIneligible l.settings entry r.1)
      (l.augmentEntry auth config run options name entry) := by
  unfold augmentEntry
  split
  case h_2 => exact gives_pure fun _ => rfl
  case h_1 m =>
    refine gives_bind (gives_ofExcept _) fun isTarget same => ?_
    split
    · exact gives_pure fun _ => rfl
    · exact gives_bind (gives_log _ _) fun _ _ => gives_pure fun _ => rfl
    · have eligible : Capability.isEligible l.settings (.obj m) = .ok true := by
        split at same
        · exact same.symm
        · cases same
      refine gives_bind (gives_read _) fun environment _ => ?_
      split
      · exact gives_pure fun _ => rfl
      · refine gives_bind (gives_handle auth run l.sink options.selfHeal) fun _ _ => ?_
        refine gives_bind (Capability.gives_augment l.settings auth options _) fun r _ => ?_
        exact gives_pure fun ineligible => absurd eligible ineligible

private theorem gives_setup_named (entries : Members) :
    Gives (fun r => ∃ entries', r = .obj entries' ∧ List.Forall₂
        (fun p p' => p'.1 = p.1 ∧ KeepsIneligible l.settings p.2 p'.2) entries entries')
      (l.setup config run options (.obj entries) true) := by
  have alone : List.Forall₂ (fun p p' => p'.1 = p.1 ∧ KeepsIneligible l.settings p.2 p'.2) entries
      entries := List.forall₂_same.2 fun _ _ => ⟨rfl, fun _ => rfl⟩
  have attempted : Gives (fun r => ∃ entries', r.1 = .obj entries' ∧ List.Forall₂
        (fun p p' => p'.1 = p.1 ∧ KeepsIneligible l.settings p.2 p'.2) entries entries')
      (l.attemptSetup config run options (.obj entries) true) := by
    refine gives_bind (gives_read _) fun environment _ => ?_
    split
    · exact gives_bind (gives_log _ _) fun _ _ => gives_pure ⟨entries, rfl, alone⟩
    · refine gives_bind (gives_attempt _) fun authenticated _ => ?_
      split
      · exact gives_pure ⟨entries, rfl, alone⟩
      · have each := gives_augmentEntry_ineligible l config run options
        exact gives_bind (gives_augmentEntries l _ config run options (each _) entries)
          fun entries' left => gives_pure ⟨entries', rfl, left⟩
  refine gives_bind attempted fun r left => ?_
  obtain ⟨v, fault?⟩ := r
  cases fault? with
  | none => exact gives_pure left
  | some fault => exact gives_bind (gives_log _ _) fun _ _ => gives_pure left

end Launcher

namespace Worker

variable {k : Worker ε τ} {options : HealingOptions}

/-- A worker takes a session of a target: when its turn comes, the user may have healing in it, and
so the service is asked to attribute it to the token. -/
def Takes (k : Worker ε τ) (options : HealingOptions) (capabilities : Json) (target : Target)
    (w : World ε τ) (key : String) : Prop :=
  ∃ v auth, k.Begins options capabilities target w key v ∧ k.Admits options (v.sessions key) auth

omit [Outside ε τ] [TimeScale τ] in
private theorem sturdy_sameCapabilities : Sturdy fun w v : World ε τ =>
    ∀ key, (v.sessions key).capabilities = (w.sessions key).capabilities where
  refl _ _ := rfl
  trans first second key := (second key).trans (first key)
  log _ _ _ _ := rfl
  clock _ _ _ := rfl
  trace _ _ _ := rfl
  outside _ _ _ := rfl
  closes other w key := by
    simp only [Action.modifySession, Action.run_modify]
    split
    case isTrue here => rw [here]
    case isFalse => rfl
  loses other w key := by
    simp only [Action.modifySession, Action.run_modify]
    split
    case isTrue here => rw [here]
    case isFalse => rfl

theorem Begins.capabilities {mapping : Json} {target : Target} {w v : World ε τ} {key : String}
    (begins : k.Begins options mapping target w key v) (other : String) :
    (v.sessions other).capabilities = (w.sessions other).capabilities := by
  cases target with
  | one session =>
    obtain ⟨-, rfl⟩ := begins
    rfl
  | named sessions =>
    obtain ⟨before, _, _, -, rfl⟩ := begins
    have hR := sturdy_sameCapabilities (ε := ε) (τ := τ)
    refine (keeps_setupAll hR.toFrame
      (fun key => keeps_setupSession hR fun auth _ => ?_) before) w other
    refine Session.keeps_intercept hR.toFrame fun w other => ?_
    simp only [Action.modifySession, Action.run_modify]
    split
    case isTrue here =>
      rw [here, Session.register]
      split <;> rfl
    case isFalse => rfl

end Worker

/-- The sessions that are started for named entries: one for each, under its name, with the browser
that the entry names, and without healing. -/
def SessionsOf (entries : Members) (w : World ε τ) (sessions : List (String × String)) : Prop :=
  List.Forall₂ (fun e p => p.1 = e.1 ∧
    (w.sessions p.2).hasMiddleware Session.interceptorName = false ∧
    ∃ inner, Capability.inner? e.2 = some inner ∧
      (w.sessions p.2).capabilities.get? "browserName" = inner.get? "browserName") entries sessions

namespace Launcher

variable {l : Launcher ε τ} {config : LaunchConfig} {run : RunConfig} {options : HealingOptions}
  {entries : Members} {mapping : Json} {service : Service ε τ} {k : Worker ε τ}
  {sessions : List (String × String)} {w w₁ w₂ w₃ now : World ε τ}

/-- A worker takes sessions by their browsers alone. The launcher leaves every named entry alone
that is not eligible. A session that the launch's worker intercepts was taken, and all requests and
commands of the worker are for sessions that are taken. Of these, the ones with an eligible entry
are those whose browser is named by a text and whose entry does not run on the provider's
infrastructure. -/
theorem setup_taken
    (launched : (l.setup config run options (.obj entries) true).run w = (.ok mapping, w₁))
    (started : (Worker.ofEnvironment service l.settings).run
      { w₂ with environment := w₁.environment } = (.ok k, w₃))
    (paired : SessionsOf entries now sessions) :
    let target := Worker.Target.named sessions
    let after := ((k.selfHeal options mapping target).run now).2
    (∃ left, mapping = .obj left ∧ List.Forall₂
      (fun e e' => e'.1 = e.1 ∧ KeepsIneligible l.settings e.2 e'.2) entries left) ∧
    List.Forall₂ (fun e p =>
      ((after.sessions p.2).hasMiddleware Session.interceptorName = true →
        k.Takes options mapping target now p.2) ∧
      (k.Takes options mapping target now p.2 →
        (Capability.isEligible l.settings e.2 = .ok true ↔
          Capability.NamesBrowser e.2 ∧ l.settings.isProviderEntry e.2 = .ok false)))
      entries sessions ∧
    now.Adds (fun event => ∃ key v auth, k.Begins options mapping target now key v ∧
      k.Admits options (v.sessions key) auth ∧
      k.SetupEvent auth key (v.sessions key).sessionId event) after := by
  intro target after
  have same := Worker.settings_ofEnvironment started
  refine ⟨?_, ?_, Worker.adds_selfHeal mapping target now⟩
  · obtain ⟨r, v, ran, left⟩ := gives_setup_named l config run options entries w
    rw [launched] at ran
    cases ran
    exact left
  · refine paired.imp fun e p ⟨_, free, inner, held, browser⟩ => ⟨fun taken => ?_, ?_⟩
    · obtain ⟨v, auth, _, begins, intercepts⟩ := Worker.intercepts_of_selfHeal free taken
      exact ⟨v, auth, begins, intercepts.admits⟩
    · rintro ⟨v, auth, begins, admits⟩
      refine Capability.isEligible_iff_of_session (s := v.sessions p.2) held ?_ ?_
      · rw [begins.capabilities, browser]
      · rw [← same]
        exact admits.supported

/-- Two chrome browsers, of which one runs on the provider's infrastructure. -/
def hostedEntries : Members :=
  [("local", .obj [("capabilities", chrome), ("hostname", .str "localhost")]),
    ("grid", .obj [("capabilities", chrome), ("hostname", .str "hub.healing.test")])]

def hostedLaunch : Except Fault Json × World Still Rat :=
  ((chromeLauncher none).setup runnerConfig {} { selfHeal := true } (.obj hostedEntries) true).run
    freshWorld

def hostedMapping : Json :=
  .obj [("local", .obj [("capabilities", .obj [("browserName", .str "chrome"),
      (Capability.metadataName, Capability.metadata (chromeLauncher none).settings)]),
      ("hostname", .str "localhost")]),
    ("grid", .obj [("capabilities", chrome), ("hostname", .str "hub.healing.test")])]

def hostedWorld : World Still Rat :=
  { freshWorld with
    environment := hostedLaunch.2.environment
    sessions := fun key =>
      { sessionId := .str key, capabilities := [("browserName", .str "chrome")] } }

def hostedWorker : Worker Still Rat where
  service := admitting {}
  settings := (chromeLauncher none).settings
  auth := some { isAuthenticated := true }
  auditFile := none

private theorem run_hostedLaunch : hostedLaunch = (.ok hostedMapping, hostedLaunch.2) :=
  Prod.ext rfl rfl

private theorem run_hostedWorker :
    (Worker.ofEnvironment (admitting {}) (chromeLauncher none).settings).run
      { hostedWorld with environment := hostedLaunch.2.environment } =
        (.ok hostedWorker, hostedWorld) := by
  have portable : ({ isAuthenticated := true } : AuthResult).Portable := ⟨nofun, by decide⟩
  have resolved : Credentials.resolve? runnerConfig { selfHeal := true } freshWorld.environment =
      some ⟨"ada", "secret"⟩ := rfl
  have written := (handover_of_authenticate (chromeLauncher none) runnerConfig {}
    { selfHeal := true } (.obj hostedEntries) true portable resolved rfl).2
  refine (Worker.run_ofEnvironment portable ?_).trans rfl
  change hostedLaunch.2.environment.get? _ = _
  rw [hostedLaunch, written, Variables.get?_put, if_pos rfl]

private theorem sessionsOf_hosted :
    SessionsOf hostedEntries hostedWorld [("local", "a"), ("grid", "b")] :=
  .cons ⟨rfl, rfl, _, rfl, rfl⟩ (.cons ⟨rfl, rfl, _, rfl, rfl⟩ .nil)

/-- The session of the local browser is taken, if it is intercepted, and then its entry is
eligible. -/
theorem setup_taken_local :
    hostedLaunch = (.ok hostedMapping, hostedLaunch.2) ∧
    SessionsOf hostedEntries hostedWorld [("local", "a"), ("grid", "b")] ∧
    let target := Worker.Target.named [("local", "a"), ("grid", "b")]
    let after :=
      ((hostedWorker.selfHeal { selfHeal := true } hostedMapping target).run hostedWorld).2
    (after.sessions "a").hasMiddleware Session.interceptorName = true ∧
    hostedWorker.Takes { selfHeal := true } hostedMapping target hostedWorld "a" ∧
    ∀ entry, hostedEntries.get? "local" = some entry →
      Capability.isEligible (chromeLauncher none).settings entry = .ok true := by
  obtain ⟨-, each, -⟩ :=
    setup_taken run_hostedLaunch run_hostedWorker sessionsOf_hosted
  cases each with
  | cons first rest =>
    obtain ⟨intercepted, eligible⟩ := first
    have taken := intercepted rfl
    refine ⟨run_hostedLaunch, sessionsOf_hosted, rfl, taken, fun entry there => ?_⟩
    obtain rfl := Option.some.inj there
    exact (eligible taken).2 ⟨⟨_, "chrome", rfl, rfl⟩, rfl⟩

/-- The other browser runs on the provider's infrastructure, and the launcher does not inject into
it. Yet the worker has its session attributed to the token, and intercepts it. -/
theorem setup_takes_provider :
    let settings := (chromeLauncher none).settings
    let after := ((hostedWorker.selfHeal { selfHeal := true } hostedMapping
      (.named [("local", "a"), ("grid", "b")])).run hostedWorld).2
    hostedLaunch = (.ok hostedMapping, hostedLaunch.2) ∧
    (Worker.ofEnvironment (admitting {}) settings).run
      { hostedWorld with environment := hostedLaunch.2.environment } =
        (.ok hostedWorker, hostedWorld) ∧
    SessionsOf hostedEntries hostedWorld [("local", "a"), ("grid", "b")] ∧
    (∀ entry, hostedEntries.get? "grid" = some entry →
      Capability.isEligible settings entry = .ok false ∧
      settings.isProviderEntry entry = .ok true) ∧
    (after.sessions "b").hasMiddleware Session.interceptorName = true ∧
    (∃ e ∈ after.trace, e.event = .asked (.token (.str "b") none settings.serviceUrl)) := by
  refine ⟨run_hostedLaunch, run_hostedWorker, sessionsOf_hosted, fun entry there => ?_, rfl, ?_⟩
  · obtain rfl := Option.some.inj there
    exact ⟨rfl, rfl⟩
  · exact ⟨_, .tail _ (.head _), rfl⟩

end Launcher

end LocatorHealing
