import LocatorHealing.Proofs.Action.Request
import LocatorHealing.Proofs.Action.Result
import LocatorHealing.Proofs.Session.History

set_option autoImplicit false
set_option relaxedAutoImplicit false

/-!
Who gets healing. A set-up does something to a session only if the user may have healing in its
browser; it then asks for the session to be attributed to the token, and routes the lookups once
that is done. So a session that is intercepted, after whatever happened to it, had one such set-up,
and a session that is not admitted is not touched.
-/

namespace LocatorHealing

open LocatorHealing.Action (Keeps)

variable {ε τ : Type}

namespace Worker

/-- The user may have healing in a session: there is a result that says so, and the browser is
supported. -/
structure Admits (k : Worker ε τ) (options : HealingOptions) (s : Session ε τ)
    (auth : AuthResult) : Prop where
  result : k.auth = some auth
  authenticated : auth.isAuthenticated = true
  wanted : auth.defaultLogDataEnabled = some true ∨ options.selfHeal = true
  supported : k.settings.supportsBrowser (.str s.browserName) = .ok true

variable {k : Worker ε τ} {options : HealingOptions} {auth : AuthResult}

private theorem Admits.of_isAuthorized {s : Session ε τ} (result : k.auth = some auth)
    (authorized : Capability.isAuthorized auth options = true)
    (supported : k.settings.supportsBrowser (.str s.browserName) = .ok true) :
    k.Admits options s auth := by
  simp only [Capability.isAuthorized, Bool.and_eq_true, Bool.or_eq_true, beq_iff_eq] at authorized
  exact ⟨result, authorized.1, authorized.2, supported⟩

theorem Admits.isAuthorized {s : Session ε τ} (admits : k.Admits options s auth) :
    Capability.isAuthorized auth options = true := by
  simp only [Capability.isAuthorized, Bool.and_eq_true, Bool.or_eq_true, beq_iff_eq]
  exact ⟨admits.authenticated, admits.wanted⟩

theorem supportsBrowser_text (settings : Settings τ) (name : String) :
    settings.supportsBrowser (.str name) =
      .ok (name != "" && settings.supportedBrowsers.contains (Text.lower name)) := by
  unfold Settings.supportsBrowser
  cases named : (name != "") with
  | false => simp [Json.truthy, named]
  | true => simp [Json.truthy, named, Json.textFor, Except.map]

variable [Outside ε τ] [TimeScale τ]

/-- What the set-up of a session may do: ask for the session to be attributed to the token, wherever
this request is redirected to, and install the companion add-on. Sessions may be closed meanwhile.
-/
inductive SetupEvent (k : Worker ε τ) (auth : AuthResult) (key : String) (sessionId : Json) :
    Event τ → Prop where
  | asks : SetupEvent k auth key sessionId
      (.asked (.token sessionId auth.sessionToken k.settings.serviceUrl))
  | sends {event : Event τ} : (k.service.call
      (.token sessionId auth.sessionToken k.settings.serviceUrl)).event = some event →
      SetupEvent k auth key sessionId event
  | goesOn {s : ε} {f : FollowUp τ} : .send f ∈ ((k.service.call
      (.token sessionId auth.sessionToken k.settings.serviceUrl)).exchange s).1.happenings →
      SetupEvent k auth key sessionId (.http f.request)
  | installs (path : String) : SetupEvent k auth key sessionId
      (.driver key (.installAddon path (.bool true)))
  | closes (other : String) : SetupEvent k auth key sessionId (.driver other .quit)

section Session

variable {key : String} {w : World ε τ}

theorem run_setupSession_admitted (admits : k.Admits options (w.sessions key) auth) :
    (k.setupSession options key).run w = (k.prepare auth options key).run w := by
  simp [setupSession, Action.session, admits.supported, admits.result, admits.isAuthorized]

theorem logged_setupSession_refused (refused : ∀ auth, ¬k.Admits options (w.sessions key) auth) :
    ∃ log, (k.setupSession options key).run w = (.ok false, { w with log }) ∧
      Logged False w.log log := by
  obtain ⟨supported, decided⟩ : ∃ b, k.settings.supportsBrowser
      (.str (w.sessions key).browserName) = .ok b := ⟨_, supportsBrowser_text _ _⟩
  unfold setupSession
  rw [Action.run_bind_ok (a := w.sessions key) (v := w) rfl,
    Action.run_bind_ok (a := supported) (v := w) (by rw [Action.run_ofExcept, decided])]
  cases supported with
  | false => exact ⟨w.log, rfl, .refl _⟩
  | true =>
    cases result : k.auth with
    | none =>
      cases wanted : options.selfHeal with
      | false => exact ⟨w.log, rfl, .refl _⟩
      | true =>
        obtain ⟨log, told, logged⟩ := Action.run_log_logged (.inl Level.isQuiet_debug)
          "Healing auth result is empty" w
        exact ⟨log, Action.run_bind_ok told, logged⟩
    | some auth =>
      cases authorized : Capability.isAuthorized auth options with
      | true => exact absurd (.of_isAuthorized result authorized decided) (refused auth)
      | false => exact ⟨w.log, by simp [authorized], .refl _⟩

theorem run_setupSession_refused (refused : ∀ auth, ¬k.Admits options (w.sessions key) auth) :
    ∃ log, (k.setupSession options key).run w = (.ok false, { w with log }) := by
  obtain ⟨log, alone, -⟩ := logged_setupSession_refused refused
  exact ⟨log, alone⟩

private theorem adds_prepare (auth : AuthResult) (w : World ε τ) :
    w.Adds (k.SetupEvent auth key (w.sessions key).sessionId)
      ((k.prepare auth options key).run w).2 := by
  have hR := frame_adds (ε := ε) (k.SetupEvent auth key (w.sessions key).sessionId)
  have installs (path : String) :
      Keeps (World.Adds (k.SetupEvent auth key (w.sessions key).sessionId))
        (Session.installAddon key path (.bool true) : Action ε τ Json) := by
    refine hR.keeps_bind (hR.keeps_session _) fun s => ?_
    split
    · refine Action.adds_perform (fun event shows => ?_) fun event passes => ?_
      · obtain rfl := Option.some.inj shows
        exact .installs path
      · obtain ⟨other, rfl⟩ := Call.quit_of_passes passes
        exact .closes other
    · exact hR.keeps_raise _
  have rest : Keeps (World.Adds (k.SetupEvent auth key (w.sessions key).sessionId)) (do
      Session.bindToken k.service k.settings (w.sessions key).sessionId auth.sessionToken
      let s ← Action.session key
      if s.needsCompanion then
        let _ ← Session.installCompanion k.settings key
      Session.intercept key (.healing (k.healing auth)) options) := by
    have routes : Keeps (World.Adds (k.SetupEvent auth key (w.sessions key).sessionId))
        (Session.intercept key (.healing (k.healing auth)) options : Action ε τ Bool) :=
      Session.keeps_intercept hR fun w => .refl w
    have asked : Keeps (World.Adds (k.SetupEvent auth key (w.sessions key).sessionId))
        (Session.bindToken k.service k.settings (w.sessions key).sessionId auth.sessionToken) := by
      refine Action.adds_ask .asks (fun _ => .sends) fun event passes => ?_
      cases passes with
      | quit other => exact .closes other
      | send sent => exact .goesOn sent
    refine hR.keeps_bind asked fun _ => ?_
    refine hR.keeps_bind (hR.keeps_session _) fun s => ?_
    split
    · exact hR.keeps_bind (keeps_installCompanion hR _ _ installs) fun _ => routes
    · exact routes
  exact rest w

/-- The set-up of a session that puts the intercepting middleware there: the user may have healing,
and the request that attributes the session to the token has returned before the middleware is
there. -/
structure Intercepts (k : Worker ε τ) (options : HealingOptions) (key : String) (v : World ε τ)
    (auth : AuthResult) (u : World ε τ) : Prop where
  admits : k.Admits options (v.sessions key) auth
  bound : (Session.bindToken k.service k.settings (v.sessions key).sessionId auth.sessionToken).run
    v = (.ok (), u)
  free : (u.sessions key).hasMiddleware Session.interceptorName = false
  taken : (((k.setupSession options key).run v).2.sessions key).hasMiddleware
    Session.interceptorName = true

theorem Intercepts.asked {v u : World ε τ} (intercepts : k.Intercepts options key v auth u) :
    ⟨v.clock, .asked (.token (v.sessions key).sessionId auth.sessionToken k.settings.serviceUrl)⟩ ∈
      u.trace := by
  obtain ⟨t, grown, -⟩ := Action.trace_ask k.service
    (.token (v.sessions key).sessionId auth.sessionToken k.settings.serviceUrl) v
  have same := congrArg (World.trace ∘ Prod.snd) intercepts.bound
  rw [← show _ = u.trace from same]
  unfold Session.bindToken
  simp only [Function.comp_apply, grown]
  simp

omit [Outside ε τ] [TimeScale τ] in
private theorem sturdy_ofSession (key : String) :
    Sturdy fun w v : World ε τ => (v.sessions key).middlewares = (w.sessions key).middlewares where
  refl _ := rfl
  trans first second := second.trans first
  log _ _ _ := rfl
  clock _ _ := rfl
  trace _ _ := rfl
  outside _ _ := rfl
  closes other w := sturdy_sameMiddlewares.closes other w key
  loses other w := sturdy_sameMiddlewares.loses other w key

theorem middlewares_setupSession_other {other : String} (apart : key ≠ other) (w : World ε τ) :
    (((k.setupSession options other).run w).2.sessions key).middlewares =
      (w.sessions key).middlewares := by
  have hR := sturdy_ofSession (ε := ε) (τ := τ) key
  refine keeps_setupSession hR (fun auth _ => Session.keeps_intercept hR.toFrame fun w => ?_) w
  simp [Action.modifySession, apart]

/-- If the middleware is there after a set-up and was not before, the set-up was that of the
session, which is admitted and bound. -/
private theorem intercepts_of_setupSession {other : String}
    (free : (w.sessions key).hasMiddleware Session.interceptorName = false)
    (taken : (((k.setupSession options other).run w).2.sessions key).hasMiddleware
      Session.interceptorName = true) :
    other = key ∧ ∃ auth u, k.Intercepts options key w auth u := by
  have untouched {v : World ε τ}
      (same : (v.sessions key).middlewares = (w.sessions key).middlewares) :
      (v.sessions key).hasMiddleware Session.interceptorName = false := by
    rwa [Session.hasMiddleware, same]
  rcases Decidable.em (key = other) with rfl | apart
  · refine ⟨rfl, ?_⟩
    by_cases admitted : ∃ auth, k.Admits options (w.sessions key) auth
    · obtain ⟨auth, admits⟩ := admitted
      have same := sturdy_sameMiddlewares.keeps_ask k.service
        (.token (w.sessions key).sessionId auth.sessionToken k.settings.serviceUrl) w key
      rcases bound : (Session.bindToken k.service k.settings (w.sessions key).sessionId
        auth.sessionToken).run w with ⟨fault | _, u⟩
      · have ended : (k.setupSession options key).run w = (.error fault, u) := by
          rw [run_setupSession_admitted admits]
          exact (Action.run_bind_ok rfl).trans (Action.run_bind_error bound)
        rw [ended, untouched ((congrArg (fun p => (p.2.sessions key).middlewares) bound).symm.trans
          same)] at taken
        cases taken
      · exact ⟨auth, u, admits, bound, untouched ((congrArg
          (fun p => (p.2.sessions key).middlewares) bound).symm.trans same), taken⟩
    · obtain ⟨log, alone⟩ := run_setupSession_refused (not_exists.1 admitted)
      rw [alone, free] at taken
      cases taken
  · rw [untouched (middlewares_setupSession_other apart w)] at taken
    cases taken

end Session

section Target

variable {key : String} {w : World ε τ}

omit [Outside ε τ] [TimeScale τ] in
private theorem run_report (options : HealingOptions) (message : String) (w : World ε τ) :
    ∃ log, (Action.report options message).run w = (.ok (), { w with log }) ∧
      Logged (options.selfHeal = true) w.log log := by
  refine Action.run_log_logged ?_ message w
  cases options.selfHeal with
  | true => exact .inr rfl
  | false => exact .inl rfl

private theorem setupAll_single (k : Worker ε τ) (options : HealingOptions) (p : String × String)
    (w : World ε τ) :
    let v := ((k.setupSession options p.2).run w).2
    ∃ log, (k.setupAll options [p]).run w = (.ok (), { v with log }) ∧
      Logged (options.selfHeal = true) v.log log := by
  rw [setupAll, setupEach, Action.each_singleton, Action.run_bind_ok (Action.run_attempt _ _)]
  cases ((k.setupSession options p.2).run w).1 with
  | ok _ => exact ⟨_, rfl, .refl _⟩
  | error fault => exact run_report options _ _

theorem gives_setupAll (k : Worker ε τ) (options : HealingOptions)
    (sessions : List (String × String)) :
    Action.Gives (fun _ => True) (k.setupAll options sessions) := by
  refine Action.gives_each fun p _ w => ?_
  obtain ⟨log, ran, -⟩ := k.setupAll_single options p w
  rw [setupAll, setupEach, Action.each_singleton] at ran
  exact ⟨(), _, ran, trivial⟩

/-- The last of named sessions is set up in the world that the others leave. -/
theorem setupAll_concat (k : Worker ε τ) (options : HealingOptions)
    (sessions : List (String × String)) (p : String × String) (w : World ε τ) :
    let v := ((k.setupSession options p.2).run ((k.setupAll options sessions).run w).2).2
    ∃ log, (k.setupAll options (sessions ++ [p])).run w = (.ok (), { v with log }) ∧
      Logged (options.selfHeal = true) v.log log := by
  obtain ⟨_, v, ran, -⟩ := k.gives_setupAll options sessions w
  obtain ⟨log, last, logged⟩ := k.setupAll_single options p v
  refine ⟨log, ?_, by rwa [ran]⟩
  rw [ran, setupAll, setupEach, Action.each_append]
  exact (Action.run_bind_ok ran).trans last

/-- The set-up of a session begins in a world `v` when a target is set up in a world `w`. -/
def Begins (k : Worker ε τ) (options : HealingOptions) (capabilities : Json) (target : Target)
    (w : World ε τ) (key : String) (v : World ε τ) : Prop :=
  match target with
  | .one session => session = key ∧ v = w
  | .named sessions => ∃ before name after,
      selected capabilities sessions = .ok (before ++ (name, key) :: after) ∧
        v = ((k.setupAll options before).run w).2

/-- What holds before a target is set up, and is kept by the set-up of each of its sessions, holds
afterwards. -/
theorem selfHeal_invariant {P : World ε τ → Prop}
    (logs : ∀ v log, Logged (options.selfHeal = true) v.log log → P v → P { v with log })
    {capabilities : Json} {target : Target} (start : P w)
    (step : ∀ key v, k.Begins options capabilities target w key v → P v →
      P ((k.setupSession options key).run v).2) :
    P ((k.selfHeal options capabilities target).run w).2 := by
  have setUp : P ((k.setupTarget options capabilities target).run w).2 := by
    cases target with
    | one session =>
      have ended := step session w ⟨rfl, rfl⟩ start
      rcases ran : (k.setupSession options session).run w with ⟨fault | b, v⟩
      · rw [ran] at ended
        rwa [setupTarget, Action.run_bind_error ran]
      · rw [ran] at ended
        rwa [setupTarget, Action.run_bind_ok ran]
    | named sessions =>
      cases chosen? : selected capabilities sessions with
      | error fault =>
        rwa [setupTarget, Action.run_bind_error (by rw [Action.run_ofExcept, chosen?])]
      | ok chosen =>
        rw [setupTarget, Action.run_bind_ok (by rw [Action.run_ofExcept, chosen?])]
        -- by induction on the sessions that are left, from those that are done
        have left (rest done : List (String × String)) (split : chosen = done ++ rest)
            (sofar : P ((k.setupAll options done).run w).2) :
            P ((k.setupAll options chosen).run w).2 := by
          induction rest generalizing done with
          | nil => rwa [split, List.append_nil]
          | cons p rest ih =>
            refine ih (done ++ [p]) (by rw [split, List.append_cons]) ?_
            obtain ⟨log, last, logged⟩ := k.setupAll_concat options done p w
            rw [last]
            refine logs _ log logged (step p.2 _ ⟨done, p.1, rest, ?_, rfl⟩ sofar)
            rw [chosen?, split]
        exact left chosen [] rfl start
  rcases ran : (k.setupTarget options capabilities target).run w with ⟨fault | _, v⟩
  · rw [ran] at setUp
    obtain ⟨log, told, logged⟩ : ∃ log, ((k.selfHeal options capabilities target).run w).2 =
        { v with log } ∧ Logged (options.selfHeal = true) v.log log := by
      rw [selfHeal, Action.run_bind_ok (Action.run_attempt _ _), ran]
      dsimp only
      split
      case isTrue asked =>
        obtain ⟨log, told, logged⟩ := Action.run_log_logged (.inr asked)
          ("Error while setting up self-healing: " ++ fault.message ++
            ". Disabling healing for this session.") v
        exact ⟨log, by rw [told], logged⟩
      case isFalse =>
        obtain ⟨log, told, logged⟩ := Action.run_log_logged (.inl Level.isQuiet_debug)
          ("Error while setting up self-healing: " ++ fault.message) v
        exact ⟨log, by rw [told], logged⟩
    rw [told]
    exact logs v log logged setUp
  · rw [ran] at setUp
    rwa [selfHeal, Action.run_bind_ok (Action.run_attempt _ _), ran]

/-- A session that is intercepted after the set-up of a target, and was not before, is one of its
sessions, and is admitted and bound. -/
theorem intercepts_of_selfHeal {capabilities : Json} {target : Target}
    (free : (w.sessions key).hasMiddleware Session.interceptorName = false)
    (taken : (((k.selfHeal options capabilities target).run w).2.sessions key).hasMiddleware
      Session.interceptorName = true) :
    ∃ v auth u, k.Begins options capabilities target w key v ∧
      k.Intercepts options key v auth u := by
  revert taken
  refine selfHeal_invariant (P := fun x =>
      (x.sessions key).hasMiddleware Session.interceptorName = true →
        ∃ v auth u, k.Begins options capabilities target w key v ∧
          k.Intercepts options key v auth u)
    (fun _ _ _ holds => holds) (fun earlier => ?_) (fun other v begins sofar after => ?_)
  · rw [free] at earlier
    cases earlier
  · cases earlier : (v.sessions key).hasMiddleware Session.interceptorName with
    | true => exact sofar earlier
    | false =>
      obtain ⟨rfl, auth, u, intercepts⟩ := intercepts_of_setupSession earlier after
      exact ⟨v, auth, u, begins, intercepts⟩

theorem adds_selfHeal (capabilities : Json) (target : Target) (w : World ε τ) :
    w.Adds (fun e => ∃ key v auth, k.Begins options capabilities target w key v ∧
        k.Admits options (v.sessions key) auth ∧ k.SetupEvent auth key (v.sessions key).sessionId e)
      ((k.selfHeal options capabilities target).run w).2 := by
  refine selfHeal_invariant (fun v log _ adds => adds) (.refl w) fun key v begins sofar => ?_
  by_cases admitted : ∃ auth, k.Admits options (v.sessions key) auth
  · obtain ⟨auth, admits⟩ := admitted
    refine (frame_adds _).trans sofar ?_
    rw [run_setupSession_admitted admits]
    exact (adds_prepare auth v).mono fun e does => ⟨key, v, auth, begins, admits, does⟩
  · obtain ⟨log, alone⟩ := run_setupSession_refused (not_exists.1 admitted)
    rw [alone]
    exact sofar

end Target

end Worker

/-- Whoever has lookups of a session routed is as described. -/
def Session.Routed (Q : Protocol ε τ → HealingOptions → Prop) (s : Session ε τ) : Prop :=
  ∀ name p options, (name, Middleware.intercepting p options) ∈ s.middlewares → Q p options

namespace Deal

/-- A deal that routes lookups only for those who are as described. -/
def Routes (Q : Protocol ε τ → HealingOptions → Prop) : Deal ε τ → Prop
  | selfHeal k options _ _ => ∀ auth, k.auth = some auth → Q (.healing (k.healing auth)) options
  | _ => True

variable [Outside ε τ] [TimeScale τ]

def chronicle (w : World ε τ) (steps : List (FileTree × Deal ε τ)) : World ε τ :=
  steps.foldl (fun w step => step.2.after { w with files := step.1 }) w

private theorem chronicle_append (w : World ε τ) (before steps : List (FileTree × Deal ε τ)) :
    chronicle w (before ++ steps) = chronicle (chronicle w before) steps :=
  List.foldl_append

private theorem chronicle_of_intercepted {w : World ε τ} {key : String}
    (taken : (w.sessions key).hasMiddleware Session.interceptorName = true)
    (steps : List (FileTree × Deal ε τ)) :
    ((chronicle w steps).sessions key).middlewares = (w.sessions key).middlewares := by
  induction steps generalizing w with
  | nil => rfl
  | cons step rest ih =>
    rcases step.2.middlewares_after { w with files := step.1 } key with same | ⟨free, -⟩
    · refine (ih ?_).trans same
      rwa [Session.hasMiddleware, same]
    · exact Bool.noConfusion (taken.symm.trans free)

/-- A session that is intercepted in the end, and was not before, was intercepted by one set-up. -/
private theorem chronicle_of_free {w : World ε τ} {key : String}
    {steps : List (FileTree × Deal ε τ)}
    (free : (w.sessions key).hasMiddleware Session.interceptorName = false)
    (taken : ((chronicle w steps).sessions key).hasMiddleware Session.interceptorName = true) :
    ∃ before files d rest, steps = before ++ (files, d) :: rest ∧
      ((chronicle w before).sessions key).hasMiddleware Session.interceptorName = false ∧
      d.PutsInto key (w.sessions key).middlewares (d.after { chronicle w before with files }) := by
  induction steps generalizing w with
  | nil => exact Bool.noConfusion (free.symm.trans taken)
  | cons step rest ih =>
    rcases step.2.middlewares_after { w with files := step.1 } key with same | ⟨-, puts⟩
    · obtain ⟨before, files, d, rest', split, untaken, puts⟩ := ih (by
        rwa [Session.hasMiddleware, same]) taken
      refine ⟨step :: before, files, d, rest', by rw [split, List.cons_append], untaken, ?_⟩
      rwa [same] at puts
    · exact ⟨[], step.1, step.2, rest, rfl, free, puts⟩

section Routed

variable {Q : Protocol ε τ → HealingOptions → Prop} {w : World ε τ}

theorem routed_after {d : Deal ε τ} (routes : d.Routes Q)
    (routed : ∀ key, (w.sessions key).Routed Q) (key : String) :
    ((d.after w).sessions key).Routed Q := by
  intro name p options there
  rcases d.middlewares_after w key with same | ⟨-, puts⟩
  · rw [same] at there
    exact routed key name p options there
  · cases d with
    | selfHeal k options' capabilities target =>
      obtain ⟨auth, result, appended⟩ := puts
      rw [appended] at there
      rcases List.mem_append.1 there with before | now
      · exact routed key name p options before
      · cases List.mem_singleton.1 now
        exact routes auth result
    | _ => exact puts.elim

/-- Nobody has lookups routed after a history but those who had before, and those who set up
sessions in it. -/
theorem routed_chronicle {steps : List (FileTree × Deal ε τ)}
    (routes : ∀ step ∈ steps, step.2.Routes Q) (routed : ∀ key, (w.sessions key).Routed Q) :
    ∀ key, ((chronicle w steps).sessions key).Routed Q := by
  induction steps generalizing w with
  | nil => exact routed
  | cons step rest ih =>
    refine ih (fun later there => routes later (List.mem_cons_of_mem _ there)) ?_
    exact routed_after (w := { w with files := step.1 }) (routes step List.mem_cons_self) routed

end Routed

/-- A session is intercepted for nobody but a user who may have healing in it. If it is intercepted
after whatever happened to the sessions, there was a set-up of it for such a user; the request of
this set-up, which attributes the session to the user's token, had returned while the session was
still free; and the middleware is that of this set-up. All requests and commands of any set-up are
for sessions that are admitted, and a session that is not admitted is left as it is. -/
theorem admitted_first {w : World ε τ} {key : String}
    (free : (w.sessions key).hasMiddleware Session.interceptorName = false)
    (steps : List (FileTree × Deal ε τ)) :
    (((chronicle w steps).sessions key).hasMiddleware Session.interceptorName = true →
      ∃ before files k options capabilities target rest v auth u,
        steps = before ++ (files, .selfHeal k options capabilities target) :: rest ∧
        k.Begins options capabilities target { chronicle w before with files } key v ∧
        k.Intercepts options key v auth u ∧
        ⟨v.clock, .asked
          (.token (v.sessions key).sessionId auth.sessionToken k.settings.serviceUrl)⟩ ∈ u.trace ∧
        ((chronicle w steps).sessions key).middlewares = (w.sessions key).middlewares ++
          [(Session.interceptorName, .intercepting (.healing (k.healing auth)) options)]) ∧
    ∀ before files k options capabilities target rest,
      steps = before ++ (files, .selfHeal k options capabilities target) :: rest →
        let now := { chronicle w before with files }
        now.Adds (fun e => ∃ other v auth, k.Begins options capabilities target now other v ∧
            k.Admits options (v.sessions other) auth ∧
            k.SetupEvent auth other (v.sessions other).sessionId e)
          ((k.selfHeal options capabilities target).run now).2 ∧
        ∀ other v, k.Begins options capabilities target now other v →
          (∀ auth, ¬k.Admits options (v.sessions other) auth) →
          ∃ log, (k.setupSession options other).run v = (.ok false, { v with log }) := by
  refine ⟨fun taken => ?_, fun before files k options capabilities target rest split => ?_⟩
  · obtain ⟨before, files, d, rest, rfl, untaken, puts⟩ := chronicle_of_free free taken
    cases d with
    | selfHeal k options capabilities target =>
      obtain ⟨auth', result, appended⟩ := puts
      have there := Session.hasMiddleware_append appended
      obtain ⟨v, auth, u, begins, intercepts⟩ := Worker.intercepts_of_selfHeal
        (w := { chronicle w before with files }) untaken there
      obtain rfl : auth' = auth := Option.some.inj (result.symm.trans intercepts.admits.result)
      refine ⟨before, files, k, options, capabilities, target, rest, v, auth', u, rfl, begins,
        intercepts, intercepts.asked, ?_⟩
      rw [chronicle_append]
      exact (chronicle_of_intercepted there rest).trans appended
    | _ => exact puts.elim
  · exact ⟨Worker.adds_selfHeal capabilities target _,
      fun other v _ refused => Worker.run_setupSession_refused refused⟩

/-- Of the two workers that compete for a session, the one that gets it was admitted. -/
theorem admitted_first_competition :
    (chromeWorld.sessions "s").hasMiddleware Session.interceptorName = false ∧
    ∃ (k : Worker Still Rat) (options : HealingOptions) (v : World Still Rat) (auth : AuthResult)
        (u : World Still Rat), k.Intercepts options "s" v auth u ∧
      ((chronicle chromeWorld (competition.map fun d => (chromeWorld.files, d))).sessions
        "s").middlewares =
          [(Session.interceptorName, .intercepting (.healing (k.healing auth)) options)] := by
  have free : (chromeWorld.sessions "s").hasMiddleware Session.interceptorName = false := rfl
  have taken : ((chronicle chromeWorld
      (competition.map fun d => (chromeWorld.files, d))).sessions "s").hasMiddleware
        Session.interceptorName = true := rfl
  obtain ⟨before, files, k, options, capabilities, target, rest, v, auth, u, -, -, intercepts, -,
    installed⟩ := (admitted_first free (competition.map fun d => (chromeWorld.files, d))).1 taken
  exact ⟨free, k, options, v, auth, u, intercepts, installed⟩

end Deal

end LocatorHealing
