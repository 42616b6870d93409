import LocatorHealing.Proofs.Session.Frame
import LocatorHealing.Proofs.Session.Lookup
import LocatorHealing.Proofs.Still
import LocatorHealing.Worker

set_option autoImplicit false
set_option relaxedAutoImplicit false

/-!
Sessions over a history of set-ups, lookups, quits and losses. Setting up a session appends the
intercepting middleware unless it is there, and nothing else changes the middlewares of a session:
the first installation stays, alone, and every later lookup is handed to its protocol.
-/

namespace LocatorHealing

open LocatorHealing.Action (Keeps)

variable {ε τ : Type}

section Installation

/-- A set-up with a worker and options appends at most the intercepting middleware, to sessions that
have none. -/
def World.Installs (k : Worker ε τ) (options : HealingOptions) (w v : World ε τ) : Prop :=
  ∀ key, (v.sessions key).middlewares = (w.sessions key).middlewares ∨
    ∃ auth, k.auth = some auth ∧
      (w.sessions key).hasMiddleware Session.interceptorName = false ∧
      (v.sessions key).middlewares = (w.sessions key).middlewares ++
        [(Session.interceptorName, .intercepting (.healing (k.healing auth)) options)]

def World.SameMiddlewares (w v : World ε τ) : Prop :=
  ∀ key, (v.sessions key).middlewares = (w.sessions key).middlewares

open World (Installs SameMiddlewares)

private theorem Keeps.modifySession_middlewares (key : String) {f : Session ε τ → Session ε τ}
    (same : ∀ s, (f s).middlewares = s.middlewares) :
    Keeps SameMiddlewares (Action.modifySession key f : Action ε τ Unit) := by
  intro w other
  simp only [Action.modifySession, Action.run_modify]
  split
  case isTrue here => rw [here, same]
  case isFalse => rfl

theorem sturdy_sameMiddlewares : Sturdy (SameMiddlewares (ε := ε) (τ := τ)) where
  refl _ _ := rfl
  trans first second key := (second key).trans (first key)
  log _ _ _ _ := rfl
  clock _ _ _ := rfl
  trace _ _ _ := rfl
  outside _ _ _ := rfl
  closes key := Keeps.modifySession_middlewares key fun _ => rfl
  loses key := Keeps.modifySession_middlewares key fun _ => rfl

theorem Session.hasMiddleware_append {s s' : Session ε τ} {name : String} {m : Middleware ε τ}
    (appended : s'.middlewares = s.middlewares ++ [(name, m)]) : s'.hasMiddleware name = true := by
  rw [Session.hasMiddleware, appended, List.any_append]
  simp

theorem World.Installs.of_same {k : Worker ε τ} {options : HealingOptions} {w v : World ε τ}
    (same : SameMiddlewares w v) : Installs k options w v :=
  fun key => .inl (same key)

theorem sturdy_installs (k : Worker ε τ) (options : HealingOptions) :
    Sturdy (Installs k options) where
  refl _ _ := .inl rfl
  trans := by
    intro u v w first second key
    rcases first key with same | ⟨auth, result, free, appended⟩
    · rcases second key with same' | ⟨auth, result, free, appended⟩
      · exact .inl (same'.trans same)
      · refine .inr ⟨auth, result, ?_, appended.trans (by rw [same])⟩
        rwa [Session.hasMiddleware, same] at free
    · rcases second key with same | ⟨_, _, taken, _⟩
      · exact .inr ⟨auth, result, free, same.trans appended⟩
      · rw [Session.hasMiddleware_append appended] at taken
        cases taken
  log _ _ _ := .of_same fun _ => rfl
  clock _ _ := .of_same fun _ => rfl
  trace _ _ := .of_same fun _ => rfl
  outside _ _ := .of_same fun _ => rfl
  closes key w := .of_same (sturdy_sameMiddlewares.closes key w)
  loses key w := .of_same (sturdy_sameMiddlewares.loses key w)

end Installation

variable [Outside ε τ] [TimeScale τ]

namespace Worker

open World (Installs)

variable {k : Worker ε τ} {options : HealingOptions}

omit [Outside ε τ] [TimeScale τ] in
theorem keeps_intercept {auth : AuthResult} (result : k.auth = some auth) (key : String) :
    Keeps (Installs k options)
      (Session.intercept key (.healing (k.healing auth)) options : Action ε τ Bool) := by
  refine Session.keeps_intercept (sturdy_installs k options).toFrame fun w other => ?_
  simp only [Action.modifySession, Action.run_modify]
  split
  case isFalse => exact .inl rfl
  case isTrue here =>
    subst here
    rw [Session.register]
    split
    case isTrue => exact .inl rfl
    case isFalse free => exact .inr ⟨auth, result, Bool.eq_false_iff.2 free, rfl⟩

section Keeps

variable {R : World ε τ → World ε τ → Prop} {warns : Prop}

theorem keeps_installCompanion (hR : Frame R warns) (settings : Settings τ) (key : String)
    (installs : ∀ path, Keeps R (Session.installAddon key path (.bool true) : Action ε τ Json))
    (may : warns := by trivial) :
    Keeps R (Session.installCompanion settings key : Action ε τ Bool) := by
  refine hR.keeps_bind (hR.keeps_read _) fun files => ?_
  refine hR.keeps_bind (hR.keeps_ofExcept _) fun file => ?_
  have logs (level : Level) (message : Session ε τ → String) (b : Bool) : Keeps R (do
      let s ← Action.session key
      Action.log level (message s)
      return b : Action ε τ Bool) :=
    hR.keeps_bind (hR.keeps_session _) fun s =>
      hR.keeps_bind (hR.keeps_log _ _ (.inr may)) fun _ => hR.keeps_pure b
  split
  · exact logs _ _ _
  · refine hR.keeps_bind (Frame.keeps_attempt (installs _)) fun done => ?_
    split
    · exact logs _ _ _
    · exact logs _ _ _

theorem keeps_setupSession_of (hR : Frame R warns) {key : String}
    (prepares : ∀ auth, k.auth = some auth → Keeps R (k.prepare auth options key)) :
    Keeps R (k.setupSession options key) := by
  refine hR.keeps_bind (hR.keeps_session _) fun s => ?_
  refine hR.keeps_bind (hR.keeps_ofExcept _) fun supported => ?_
  split
  · cases result : k.auth with
    | none =>
      dsimp only
      split
      · exact hR.keeps_bind (hR.keeps_log _ _) fun _ => hR.keeps_pure _
      · exact hR.keeps_pure _
    | some auth =>
      dsimp only
      split
      · exact prepares auth result
      · exact hR.keeps_pure _
  · exact hR.keeps_pure _

theorem keeps_prepare (hR : Frame R warns) {key : String} {auth : AuthResult}
    (binds : ∀ sessionId token, Keeps R (Session.bindToken k.service k.settings sessionId token))
    (companions : Keeps R (Session.installCompanion k.settings key : Action ε τ Bool))
    (intercepts : Keeps R (Session.intercept key (.healing (k.healing auth)) options)) :
    Keeps R (k.prepare auth options key) := by
  refine hR.keeps_bind (hR.keeps_session _) fun s => ?_
  refine hR.keeps_bind (binds _ _) fun _ => ?_
  refine hR.keeps_bind (hR.keeps_session _) fun s => ?_
  split
  · exact hR.keeps_bind companions fun _ => intercepts
  · exact intercepts

theorem keeps_setupAll (hR : Frame R warns) (setsUp : ∀ key, Keeps R (k.setupSession options key))
    (sessions : List (String × String))
    (may : options.selfHeal = true → warns := by exact fun _ => trivial) :
    Keeps R (k.setupAll options sessions) := by
  refine hR.keeps_each fun p _ => ?_
  refine hR.keeps_bind (Frame.keeps_attempt (setsUp p.2)) fun ended => ?_
  cases ended with
  | ok _ => exact hR.keeps_pure _
  | error fault => exact hR.keeps_report options _ may

theorem keeps_selfHeal_of (hR : Frame R warns)
    (setsUp : ∀ key, Keeps R (k.setupSession options key)) (capabilities : Json) (target : Target)
    (may : options.selfHeal = true → warns := by exact fun _ => trivial) :
    Keeps R (k.selfHeal options capabilities target) := by
  have target : Keeps R (k.setupTarget options capabilities target) := by
    cases target with
    | one key => exact hR.keeps_bind (setsUp key) fun _ => hR.keeps_pure _
    | named sessions =>
      exact hR.keeps_bind (hR.keeps_ofExcept _) fun chosen => keeps_setupAll hR setsUp chosen may
  refine hR.keeps_bind (Frame.keeps_attempt target) fun ended => ?_
  cases ended with
  | ok _ => exact hR.keeps_pure _
  | error fault =>
    dsimp only
    split
    case isTrue asked => exact hR.keeps_log _ _ (.inr (may asked))
    case isFalse => exact hR.keeps_log _ _

variable (hR : Sturdy R)
include hR

theorem keeps_setupSession {key : String} (intercepts : ∀ auth, k.auth = some auth →
      Keeps R (Session.intercept key (.healing (k.healing auth)) options)) :
    Keeps R (k.setupSession options key) := by
  refine keeps_setupSession_of hR.toFrame fun auth result => ?_
  refine keeps_prepare hR.toFrame (fun _ _ => hR.keeps_ask _ _) ?_ (intercepts auth result)
  exact keeps_installCompanion hR.toFrame _ _ fun _ => Session.keeps_installAddon hR _ _ _

theorem keeps_selfHeal (intercepts : ∀ key auth, k.auth = some auth →
      Keeps R (Session.intercept key (.healing (k.healing auth)) options))
    (capabilities : Json) (target : Target) : Keeps R (k.selfHeal options capabilities target) :=
  keeps_selfHeal_of hR.toFrame (fun key => keeps_setupSession hR (intercepts key)) capabilities
    target

end Keeps

end Worker

/-- What happens to sessions, one thing at a time. -/
inductive Deal (ε τ : Type) where
  | selfHeal (k : Worker ε τ) (options : HealingOptions) (capabilities : Json)
    (target : Worker.Target)
  | lookup (key : String) (strategy value : Json)
  | quit (key : String)
  | lose (key : String)
  /-- Time passes, and the world outside changes. -/
  | meanwhile (clock : τ) (outside : ε)

namespace Deal

def after (w : World ε τ) : Deal ε τ → World ε τ
  | selfHeal k options capabilities target => ((k.selfHeal options capabilities target).run w).2
  | lookup key strategy value => ((Session.lookup key strategy value).run w).2
  | quit key => ((Session.quit key).run w).2
  | lose key => ((Action.happen (.lose key) : Action ε τ Unit).run w).2
  | meanwhile clock outside => { w with clock, outside }

/-- A set-up is what puts the intercepting middleware into a session. -/
def PutsInto (key : String) (old : List (String × Middleware ε τ)) (w : World ε τ) :
    Deal ε τ → Prop
  | selfHeal k options _ _ => ∃ auth, k.auth = some auth ∧ (w.sessions key).middlewares = old ++
      [(Session.interceptorName, .intercepting (.healing (k.healing auth)) options)]
  | _ => False

/-- Whatever happens, a session keeps its middlewares, or gets the intercepting one that it did not
have. -/
theorem middlewares_after (w : World ε τ) (d : Deal ε τ) (key : String) :
    ((d.after w).sessions key).middlewares = (w.sessions key).middlewares ∨
      (w.sessions key).hasMiddleware Session.interceptorName = false ∧
        d.PutsInto key (w.sessions key).middlewares (d.after w) := by
  have hR := sturdy_sameMiddlewares (ε := ε) (τ := τ)
  cases d with
  | selfHeal k options capabilities target =>
    have installs := Worker.keeps_selfHeal (sturdy_installs k options)
      (fun key _ result => Worker.keeps_intercept result key) capabilities target w key
    rcases installs with same | ⟨auth, result, free, appended⟩
    · exact .inl same
    · exact .inr ⟨free, auth, result, appended⟩
  | lookup other strategy value =>
    exact .inl (Session.keeps_lookup hR (fun _ _ _ => rfl) strategy value w key)
  | quit other => exact .inl (Session.keeps_quit hR other w key)
  | lose other => exact .inl (hR.keeps_happen (.lose other) w key)
  | meanwhile clock outside => exact .inl rfl

def history (w : World ε τ) (deals : List (Deal ε τ)) : World ε τ :=
  deals.foldl after w

/-- An intercepted session keeps its middlewares from then on. -/
private theorem history_of_intercepted {w : World ε τ} {key : String}
    (taken : (w.sessions key).hasMiddleware Session.interceptorName = true)
    (deals : List (Deal ε τ)) :
    ((history w deals).sessions key).middlewares = (w.sessions key).middlewares := by
  induction deals generalizing w with
  | nil => rfl
  | cons d rest ih =>
    rcases d.middlewares_after w key with same | ⟨free, -⟩
    · have later : ((d.after w).sessions key).hasMiddleware Session.interceptorName = true := by
        rwa [Session.hasMiddleware, same]
      exact (ih later).trans same
    · rw [taken] at free
      cases free

/-- A session that is intercepted after a history, and was not before, was intercepted by one set-up
of it. -/
private theorem history_of_free {w : World ε τ} {key : String} {deals : List (Deal ε τ)}
    (free : (w.sessions key).hasMiddleware Session.interceptorName = false)
    (taken : ((history w deals).sessions key).hasMiddleware Session.interceptorName = true) :
    ∃ before d rest, deals = before ++ d :: rest ∧
      ((history w before).sessions key).hasMiddleware Session.interceptorName = false ∧
      d.PutsInto key (w.sessions key).middlewares (d.after (history w before)) := by
  induction deals generalizing w with
  | nil =>
    rw [show history w [] = w from rfl, free] at taken
    cases taken
  | cons d rest ih =>
    -- the first of the set-ups that put it there is the only one
    rcases d.middlewares_after w key with same | ⟨-, puts⟩
    · have later : ((d.after w).sessions key).hasMiddleware Session.interceptorName = false := by
        rwa [Session.hasMiddleware, same]
      obtain ⟨before, e, rest', split, untaken, puts⟩ := ih later taken
      refine ⟨d :: before, e, rest', by rw [split, List.cons_append], untaken, ?_⟩
      rwa [same] at puts
    · exact ⟨[], d, rest, rfl, free, puts⟩

def interceptors (s : Session ε τ) : Nat :=
  s.middlewares.countP fun p => p.1 == Session.interceptorName

omit [Outside ε τ] [TimeScale τ] in
private theorem interceptors_eq_zero {s : Session ε τ}
    (free : s.hasMiddleware Session.interceptorName = false) : interceptors s = 0 := by
  refine List.countP_eq_zero.2 fun p member named => ?_
  have taken : s.hasMiddleware Session.interceptorName = true :=
    List.any_eq_true.2 ⟨p, member, named⟩
  rw [free] at taken
  cases taken

/-- A lookup in a session is one run of healing: its outcome is that of the run, and a run that
raises a fault is followed by a lookup without healing. -/
def HealsOnce (h : Healing ε τ) (options : HealingOptions) (key : String)
    (look : Json → Json → Action ε τ Outcome) (w : World ε τ) (strategy value : Json) : Prop :=
  match (h.run look key ⟨strategy, value, (w.sessions key).sessionId⟩ options).run w with
  | (.ok outcome, v) => (Session.lookup key strategy value).run w = (.ok outcome, v)
  | (.error _, v) => ∃ log, (Session.lookup key strategy value).run w =
      (Outcome.settled (look strategy value)).run { v with log }

private theorem healsOnce_of_intercepted {w : World ε τ} {key : String} {h : Healing ε τ}
    {options : HealingOptions} {old : List (String × Middleware ε τ)}
    (installed : (w.sessions key).middlewares =
      old ++ [(Session.interceptorName, .intercepting (.healing h) options)])
    (strategy value : Json) :
    HealsOnce h options key (Session.lookupThrough key old.reverse) w strategy value := by
  have handed : (Session.lookup key strategy value).run w =
      ((Protocol.healing h).intercept options key (Session.lookupThrough key old.reverse) strategy
        value).run w := by
    simp [Session.lookup, Action.session, installed, Session.lookupThrough, Middleware.apply]
  unfold HealsOnce
  split
  case h_1 outcome v ran => exact handed.trans (Protocol.run_intercept_ok ran)
  case h_2 fault v ran =>
    obtain ⟨log, recovered⟩ := Protocol.run_intercept_error (p := .healing h) ran
    exact ⟨log, handed.trans recovered⟩

/-- A session is intercepted once at most, whoever sets it up and however often. The middleware
that is there was put there by one set-up; it stays as it is, whatever comes after that, and every
lookup from then on is healed once, with the result and the options of that set-up. -/
theorem intercepted_once {w : World ε τ} {key : String}
    (free : (w.sessions key).hasMiddleware Session.interceptorName = false)
    (deals : List (Deal ε τ)) :
    interceptors ((history w deals).sessions key) ≤ 1 ∧
    (((history w deals).sessions key).hasMiddleware Session.interceptorName = true →
      ∃ before k options capabilities target rest auth,
        deals = before ++ .selfHeal k options capabilities target :: rest ∧
        ((history w before).sessions key).hasMiddleware Session.interceptorName = false ∧
        k.auth = some auth ∧ (k.healing auth).auth = auth ∧
        (k.healing auth).service = k.service ∧ (k.healing auth).settings = k.settings ∧
        ∀ more : List (Deal ε τ),
          let later := history w (before ++ .selfHeal k options capabilities target :: more)
          (later.sessions key).middlewares = (w.sessions key).middlewares ++
            [(Session.interceptorName, .intercepting (.healing (k.healing auth)) options)] ∧
          ∀ strategy value, HealsOnce (k.healing auth) options key
            (Session.lookupThrough key (w.sessions key).middlewares.reverse) later strategy
            value) := by
  cases taken : ((history w deals).sessions key).hasMiddleware Session.interceptorName with
  | false => exact ⟨by rw [interceptors_eq_zero taken]; exact Nat.zero_le 1, nofun⟩
  | true =>
    obtain ⟨before, d, rest, rfl, untaken, puts⟩ := history_of_free free taken
    cases d with
    | selfHeal k options capabilities target =>
      obtain ⟨auth, result, appended⟩ := puts
      have kept (more : List (Deal ε τ)) :
          ((history w (before ++ .selfHeal k options capabilities target :: more)).sessions
            key).middlewares = (w.sessions key).middlewares ++
              [(Session.interceptorName, .intercepting (.healing (k.healing auth)) options)] := by
        rw [history, List.foldl_append, List.foldl_cons, ← history, ← history]
        exact (history_of_intercepted (Session.hasMiddleware_append appended) more).trans appended
      have one : interceptors ((history w
          (before ++ .selfHeal k options capabilities target :: rest)).sessions key) = 1 := by
        rw [interceptors, kept, List.countP_append, ← interceptors, interceptors_eq_zero free]
        simp
      exact ⟨Nat.le_of_eq one, fun _ => ⟨before, k, options, capabilities, target, rest, auth,
        rfl, untaken, result, rfl, rfl, rfl, fun more =>
          ⟨kept more, fun strategy value => healsOnce_of_intercepted (kept more) strategy value⟩⟩⟩
    | _ => exact puts.elim

def chromeWorker (auth : AuthResult) : Worker Still Rat where
  service := ({} : Manner).service
  settings := { (Manner.healing {} auth).settings with supportedBrowsers := ["chrome"] }
  auth := some auth
  auditFile := none

def chromeWorld : World Still Rat :=
  { Manner.world {} {} {} none "here" with
    sessions := fun _ =>
      { sessionId := .str "s1", capabilities := [("browserName", .str "chrome")] } }

def competition : List (Deal Still Rat) :=
  [.selfHeal (chromeWorker { isAuthenticated := true, userId := some "ada" }) { selfHeal := true }
      .null (.one "s"),
    .lookup "s" (.str "id") (.str "here"),
    .selfHeal (chromeWorker { isAuthenticated := true, userId := some "bob" }) { selfHeal := true }
      .null (.named [("first", "s"), ("second", "s")]),
    .quit "s"]

/-- The session over which two workers compete is intercepted once. -/
theorem intercepted_once_competition :
    (chromeWorld.sessions "s").hasMiddleware Session.interceptorName = false ∧
    ((history chromeWorld competition).sessions "s").hasMiddleware Session.interceptorName = true ∧
    interceptors ((history chromeWorld competition).sessions "s") ≤ 1 ∧
    ∃ before k options capabilities target rest auth,
      competition = before ++ .selfHeal k options capabilities target :: rest ∧
      k.auth = some auth ∧ (k.healing auth).auth = auth ∧
      ∀ (more : List (Deal Still Rat)) (strategy value : Json),
        HealsOnce (k.healing auth) options "s" (Session.driverLookup "s")
          (history chromeWorld (before ++ .selfHeal k options capabilities target :: more))
          strategy value := by
  have free : (chromeWorld.sessions "s").hasMiddleware Session.interceptorName = false := rfl
  have taken : ((history chromeWorld competition).sessions "s").hasMiddleware
      Session.interceptorName = true := rfl
  obtain ⟨few, installed⟩ := intercepted_once free competition
  obtain ⟨before, k, options, capabilities, target, rest, auth, split, -, result, auths, -, -,
    later⟩ := installed taken
  exact ⟨free, taken, few, before, k, options, capabilities, target, rest, auth, split, result,
    auths, fun more => (later more).2⟩

end Deal

end LocatorHealing
