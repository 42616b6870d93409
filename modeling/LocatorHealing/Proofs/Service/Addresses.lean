import LocatorHealing.Proofs.Launch.Handover
import LocatorHealing.Proofs.Service.Recovery
import LocatorHealing.Proofs.Session.Admission
import LocatorHealing.Proofs.Session.Audited
import LocatorHealing.Proofs.Settings.Fields
import LocatorHealing.Proofs.Url.Extension

set_option autoImplicit false
set_option relaxedAutoImplicit false

/-!
Where requests go. Whatever is launched, set up and looked up with settings, events go to the URL
for events, and everything else is asked of the service of the settings, at the scheme and the
location of the URL that it was given by. The path is the one that was meant just if the text of
that URL ends with its path, slashes apart. Any other request is one that a reply redirected there.
-/

namespace LocatorHealing

open LocatorHealing.Action (Keeps)

variable {ε τ : Type}

/-- A request to the URL for events, if there is one. -/
def Settings.Tells (s : Settings τ) (request : HttpRequest τ) : Prop :=
  ∃ url ∈ s.eventsUrl, url ≠ "" ∧ request.url = (Url.target url).1

variable [TimeScale τ]

/-- What leaves with settings: requests to the URL for events, and those that ask the service at its
endpoint. -/
def Settings.Sends (s : Settings τ) (request : HttpRequest τ) : Prop :=
  s.Tells request ∨ ∃ q : Inquiry τ, q.endpoint s = s.serviceUrl ∧ request = q.request s

/-- A worker that is set up with settings, and with the service that they name. -/
structure Worker.Serves [Outside ε τ] (k : Worker ε τ) (s : Settings τ) : Prop where
  service : k.service = Service.http s
  settings : k.settings = s

/-- Healing that is set up with settings, and with the service that they name. -/
structure Healing.Serves [Outside ε τ] (h : Healing ε τ) (s : Settings τ) : Prop where
  service : h.service = Service.http s
  settings : h.settings = s

/-- Lookups of a session are routed to nobody but healing that is set up with settings. -/
def Session.Serves [Outside ε τ] (session : Session ε τ) (s : Settings τ) : Prop :=
  session.Routed fun p _ => ∀ h, p = .healing h → h.Serves s

variable [Outside ε τ] {s : Settings τ}

namespace Settings

private theorem posts_ask {q : Inquiry τ} (here : q.endpoint s = s.serviceUrl) :
    Keeps (World.Posts s.Sends) (Action.ask (Service.http s) q : Action ε τ q.Answer) :=
  .ask (Service.follows_http s q) fun _ leaves =>
    .inr ⟨q, here, Event.http.inj (Service.event_http leaves)⟩

private theorem posts_emit (name : String) (properties : Json) :
    Keeps (World.Posts s.Sends)
      (Instrumentation.emit (Launcher.defaultSink s) name properties : Action ε τ Unit) := by
  have tells {url : String} (named : s.eventsUrl.filter (· ≠ "") = some url) (payload : Json)
      (headers : Members) (timeout : τ) : Keeps (World.Posts s.Sends)
        (Action.perform (Http.post url payload headers timeout : Call ε τ Json)) := by
    obtain ⟨there, some⟩ := Option.filter_eq_some_iff.1 named
    refine World.Posts.perform (Http.follows_post _ _ _ _) fun request leaves =>
      .inl ⟨url, there, by simpa using some, ?_⟩
    rw [Event.http.inj (Http.event_post leaves), Http.request]
  unfold Launcher.defaultSink
  split
  case h_2 => exact frame_posts.keeps_log _ _
  case h_1 url named =>
    unfold Instrumentation.emit
    refine frame_posts.keeps_bind (Frame.keeps_attempt (tells named _ _ _)) fun sent => ?_
    cases sent with
    | ok v => exact frame_posts.keeps_pure ()
    | error fault => exact frame_posts.keeps_log _ _

/-- The launcher that is given settings, and neither a service nor a sink of its own. -/
def launcher (s : Settings τ) : Launcher ε τ :=
  ⟨Service.http s, s, Launcher.defaultSink s⟩

private theorem posts_setup (config : LaunchConfig) (run : RunConfig) (options : HealingOptions)
    (capabilities : Json) (isMultiremote : Bool) :
    Keeps (World.Posts s.Sends)
      ((s.launcher : Launcher ε τ).setup config run options capabilities isMultiremote) := by
  refine Launcher.keeps_setup_of s.launcher config run options capabilities isMultiremote
    frame_posts
    (fun key user => posts_ask rfl) (fun auth => ?_) (fun _ _ => World.posts_of_trace rfl)
    (fun _ _ => World.posts_of_trace rfl) (fun _ _ => World.posts_of_trace rfl)
  exact Instrumentation.keeps_handle_of frame_posts (fun _ _ => World.posts_of_trace rfl) posts_emit
    auth run options.selfHeal

private theorem posts_run {r : Healing.Run ε τ} (serves : r.healing.Serves s)
    (looks : ∀ strategy value, Keeps (World.Posts s.Sends) (r.look strategy value)) :
    Keeps (World.Posts s.Sends) r.start := by
  intro w
  refine (Healing.Run.posts_start serves.service looks w).mono fun request sent => ?_
  obtain sent | ⟨q, asks, rfl⟩ := sent
  · exact sent
  · refine .inr ⟨q, ?_, rfl⟩
    cases asks with
    | log => rfl
    | heal => rfl
    | poll limit => exact congrArg Settings.serviceUrl serves.settings

private theorem posts_lookup {key : String} {w : World ε τ} (serves : (w.sessions key).Serves s)
    (strategy value : Json) :
    w.Posts s.Sends ((Session.lookup key strategy value).run w).2 := by
  refine Session.keeps_lookupThrough_of frame_posts (World.Posts.driverLookup key)
    (fun _ _ _ => .note nofun) (fun name p options there look looks strategy value => ?_)
    strategy value w
  refine Session.keeps_protocol_of frame_posts looks fun v => ?_
  cases p with
  | failing fault => exact frame_posts.refl v
  | healing h =>
    refine Session.keeps_healing_of frame_posts fun r ready => ?_
    obtain ⟨report, -, rfl⟩ := Healing.runOf_ok ready
    exact posts_run (serves name _ options (List.mem_reverse.1 there) h rfl) looks v

private theorem posts_selfHeal {k : Worker ε τ} (serves : k.Serves s) (options : HealingOptions)
    (capabilities : Json) (target : Worker.Target) :
    Keeps (World.Posts s.Sends) (k.selfHeal options capabilities target) := by
  have hR := frame_posts (ε := ε) (P := s.Sends)
  have installs (key path : String) : Keeps (World.Posts s.Sends)
      (Session.installAddon key path (.bool true) : Action ε τ Json) := by
    refine hR.keeps_bind (hR.keeps_session _) fun session => ?_
    split
    · exact .command _ _ _
    · exact hR.keeps_raise _
  refine Worker.keeps_selfHeal_of hR (fun key => ?_) capabilities target
  refine Worker.keeps_setupSession_of hR fun auth _ => Worker.keeps_prepare hR ?_ ?_ ?_
  · intro sessionId token
    unfold Session.bindToken
    rw [serves.service, serves.settings]
    exact posts_ask rfl
  · exact Worker.keeps_installCompanion hR _ _ (installs key)
  · exact Session.keeps_intercept hR fun _ => World.posts_of_trace rfl

private theorem posts_after {w : World ε τ} {d : Deal ε τ}
    (uses : ∀ k options capabilities target, d = .selfHeal k options capabilities target →
      k.Serves s)
    (serves : ∀ key, (w.sessions key).Serves s) : w.Posts s.Sends (d.after w) := by
  cases d with
  | selfHeal k options capabilities target =>
    exact posts_selfHeal (uses k _ _ _ rfl) options capabilities target w
  | lookup key strategy value => exact posts_lookup (serves key) strategy value
  | quit key =>
    exact frame_posts.keeps_bind (fun _ => World.posts_of_trace rfl) (fun _ => .command _ _ _) w
  | lose key => exact World.posts_of_trace rfl
  | meanwhile clock outside => exact World.posts_of_trace rfl

private theorem posts_chronicle {w : World ε τ} {steps : List (FileTree × Deal ε τ)}
    (uses : ∀ files k options capabilities target,
      (files, .selfHeal k options capabilities target) ∈ steps → k.Serves s)
    (serves : ∀ key, (w.sessions key).Serves s) : w.Posts s.Sends (Deal.chronicle w steps) := by
  induction steps generalizing w with
  | nil => exact frame_posts.refl w
  | cons step rest ih =>
    obtain ⟨files, d⟩ := step
    have here : ∀ k options capabilities target, d = .selfHeal k options capabilities target →
        k.Serves s := by
      rintro k options capabilities target rfl
      exact uses files k options capabilities target List.mem_cons_self
    have dealt : w.Posts s.Sends (d.after { w with files }) := posts_after here serves
    refine frame_posts.trans dealt (ih ?_ ?_)
    · exact fun files k options capabilities target later =>
        uses files k options capabilities target (List.mem_cons_of_mem _ later)
    · refine Deal.routed_after (w := { w with files }) ?_ serves
      cases d with
      | selfHeal k options capabilities target =>
        rintro auth - h ⟨⟩
        have serves := here k options capabilities target rfl
        exact ⟨serves.service, serves.settings⟩
      | _ => trivial

end Settings

namespace Inquiry

omit [TimeScale τ] [Outside ε τ] in
private theorem isSuffix (q : Inquiry τ) : Url.IsSuffix ("/api/v1/" ++ q.operation).toList := by
  have parts (operation : String) (there : operation ∈ ["init", "token", "log", "heal", "poll"]) :
      Url.IsSuffix ("/api/v1/" ++ operation).toList := by
    simp only [List.mem_cons, List.not_mem_nil, or_false] at there
    obtain rfl | rfl | rfl | rfl | rfl := there
    all_goals
      refine ⟨⟨by simp, by simp, by simp⟩, by simp, by simp, by simp, ?_⟩
      simp only [String.reduceAppend, String.reduceToList, List.getLast?_cons, Option.mem_def,
        Option.some.injEq, forall_eq']
      rfl
  refine parts _ ?_
  cases q with
  | _ => simp [operation]

/-- A request for an inquiry goes below a URL that was given by a text: to its scheme and its
location, and its path is that of the URL, without slashes at its end, followed by the operation,
just if paths can be put behind the URL. -/
def GoesBelow (q : Inquiry τ) (s : Settings τ) (given : String) (url : Url) : Prop :=
  ∃ sent, Url.split (q.request s).url = .ok sent ∧
    sent.scheme = url.scheme ∧ sent.location = url.location ∧
    (sent.path = Text.trimEnd '/' url.path ++ "/api/v1/" ++ q.operation ↔ Url.IsBase given url)

private theorem goesBelow_of_absolute {q : Inquiry τ} (here : q.endpoint s = s.serviceUrl)
    {given : String}
    {url : Url} (kept : s.serviceUrl = Text.trimEnd '/' given) (splits : Url.split given = .ok url)
    (scheme : url.scheme = "http" ∨ url.scheme = "https") (location : url.location ≠ "") :
    q.GoesBelow s given url := by
  have whole : q.url s = Text.trimEnd '/' given ++ ("/api/v1/" ++ q.operation) := by
    rw [Inquiry.url, here, kept, Text.trimEnd_trimEnd, String.append_assoc]
  have schemes : url.scheme ≠ "" ∧ url.scheme ≠ "url" := by
    rcases scheme with http | https
    · rw [http]
      decide
    · rw [https]
      decide
  obtain ⟨-, sent, splits', parts⟩ := Url.split_below splits schemes location q.isSuffix
  rw [← whole] at splits'
  rw [← String.append_assoc] at parts
  simp only [GoesBelow, Inquiry.request, Http.request]
  exact ⟨sent, splits', parts⟩

end Inquiry

namespace Settings

/-- Every request that leaves while sessions are launched, set up and looked up with settings that
were found valid either goes to the URL for events or asks the service for an operation, or a reply
to such a request redirected it. What asks the service has the scheme and the location of the URL
that the settings were given. Its path is the path of that URL, without slashes at its end, followed
by the operation, just if nothing but the path follows the location in the text that was given, and
no slash is left at its end once slashes are trimmed off. -/
theorem requests_below {m : Members} {s : Settings Number} [Outside ε Number]
    (valid : ofJson (.obj m) = .ok s) :
    ∃ given url, m.get? "service_url" = some (.str given) ∧ Url.split given = .ok url ∧
      (∀ (config : LaunchConfig) (run : RunConfig) (options : HealingOptions) (capabilities : Json)
          (isMultiremote : Bool) (w : World ε Number),
        w.Posts (fun request => s.Tells request ∨
            ∃ q : Inquiry Number, request = q.request s ∧ q.GoesBelow s given url)
          ((s.launcher.setup config run options capabilities isMultiremote).run w).2) ∧
      ∀ (w : World ε Number) (steps : List (FileTree × Deal ε Number)),
        (∀ key, (w.sessions key).Serves s) →
        (∀ files k options capabilities target,
          (files, .selfHeal k options capabilities target) ∈ steps → k.Serves s) →
        w.Posts (fun request => s.Tells request ∨
            ∃ q : Inquiry Number, request = q.request s ∧ q.GoesBelow s given url)
          (Deal.chronicle w steps) := by
  obtain ⟨_, ⟨⟩, checked⟩ := checkFields_of_ofJson valid
  obtain ⟨given, there, kept⟩ := serviceUrl_given checked
  obtain ⟨kept, url, splits, scheme, location⟩ := absolute_of_serviceUrlOf kept
  have addressed (request : HttpRequest Number) (sends : s.Sends request) :
      s.Tells request ∨ ∃ q : Inquiry Number, request = q.request s ∧ q.GoesBelow s given url := by
    obtain tells | ⟨q, here, rfl⟩ := sends
    · exact .inl tells
    · exact .inr ⟨q, rfl, q.goesBelow_of_absolute here kept splits scheme location⟩
  refine ⟨given, url, there, splits, ?_, ?_⟩
  · intro config run options capabilities isMultiremote w
    exact (posts_setup config run options capabilities isMultiremote w).mono addressed
  · exact fun w steps serves uses => (posts_chronicle uses serves).mono addressed

section Concrete

open Rehearsal (Stage)

/-- A world in which no lookups are routed yet, of sessions in a browser that can be healed. -/
def bareWorld : World Stage Number :=
  { Occurrence.stagedWorld [] with
    sessions := fun _ =>
      { sessionId := .str "s1", capabilities := [("browserName", .str "chrome")] } }

def launchedWith (s : Settings Number) : World Stage Number :=
  ((s.launcher.setup runnerConfig {} {} .null false).run bareWorld).2

def visit (s : Settings Number) : List (FileTree × Deal Stage Number) :=
  let k : Worker Stage Number :=
    { service := Service.http s, settings := s, auditFile := none
      auth := some { isAuthenticated := true, isHealingEnabled := some true } }
  [(⟨[], []⟩, .selfHeal k { selfHeal := true } .null (.one "s")),
    (⟨[], []⟩, .lookup "s" (.str "id") (.str "gone"))]

private theorem serves_visit {s : Settings Number} (files : FileTree) (k : Worker Stage Number)
    (options : HealingOptions) (capabilities : Json) (target : Worker.Target)
    (there : (files, .selfHeal k options capabilities target) ∈ visit s) : k.Serves s := by
  simp only [visit, List.mem_cons, List.not_mem_nil, or_false, Prod.mk.injEq] at there
  rcases there with ⟨-, same⟩ | ⟨-, other⟩
  · rw [(Deal.selfHeal.inj same).1]
    exact ⟨rfl, rfl⟩
  · cases other

def requested (w : World Stage Number) : List (HttpRequest Number) :=
  w.trace.filterMap fun entry =>
    match entry.event with
    | .http request => some request
    | _ => none

def nested : Settings Number :=
  servedAt "https://healing.test/base"

private theorem requested_launchedWith_nested :
    (requested (launchedWith nested)).map HttpRequest.url =
      ["https://healing.test/base/api/v1/init"] := by
  with_unfolding_all rfl

private theorem requested_visit_nested :
    (requested (Deal.chronicle bareWorld (visit nested))).map HttpRequest.url =
      ["https://healing.test/base/api/v1/token", "https://healing.test/base/api/v1/heal"] := by
  with_unfolding_all rfl

/-- Below a path, however many slashes are at its end, requests go where they are meant to. -/
theorem requests_below_nested :
    ofJson (namedBy "https://healing.test/base//") = .ok nested ∧
    (requested (launchedWith nested)).map HttpRequest.url =
      ["https://healing.test/base/api/v1/init"] ∧
    (requested (Deal.chronicle bareWorld (visit nested))).map HttpRequest.url =
      ["https://healing.test/base/api/v1/token", "https://healing.test/base/api/v1/heal"] ∧
    ∀ w ∈ [launchedWith nested, Deal.chronicle bareWorld (visit nested)],
      ∀ entry ∈ w.trace, ∀ request, entry.event = .http request → request.method = .post →
        ∃ (q : Inquiry Number) (sent : Url), request = q.request nested ∧
          Url.split request.url = .ok sent ∧ sent.location = "healing.test" ∧
          sent.path = "/base" ++ "/api/v1/" ++ q.operation := by
  have valid : ofJson (namedBy "https://healing.test/base//") = .ok nested := ofJson_namedBy rfl
  obtain ⟨given, url, there, splits, launches, visits⟩ := requests_below (ε := Stage) valid
  obtain rfl : "https://healing.test/base//" = given := Json.str.inj (Option.some.inj there)
  have parts : Url.split "https://healing.test/base//" =
      .ok ⟨"https", "healing.test", "/base//", "", "", ""⟩ := rfl
  obtain rfl := Except.ok.inj (parts.symm.trans splits)
  have base : Url.IsBase "https://healing.test/base//"
      ⟨"https", "healing.test", "/base//", "", "", ""⟩ := ⟨by decide, by decide⟩
  have launched := launches runnerConfig {} {} .null false bareWorld
  have visited := visits bareWorld (visit nested) (fun _ _ _ _ none => nomatch none) serves_visit
  refine ⟨valid, requested_launchedWith_nested, requested_visit_nested, fun w among => ?_⟩
  have posted : bareWorld.Posts (fun request => nested.Tells request ∨
      ∃ q : Inquiry Number, request = q.request nested ∧
        q.GoesBelow nested "https://healing.test/base//"
          ⟨"https", "healing.test", "/base//", "", "", ""⟩) w := by
    simp only [List.mem_cons, List.not_mem_nil, or_false] at among
    rcases among with same | same
    · rw [same]
      exact launched
    · rw [same]
      exact visited
  intro entry there request shows post
  obtain ⟨t, grown, posts⟩ := posted
  have new : entry ∈ [] ++ t := grown ▸ there
  obtain ⟨_, none, -⟩ | ⟨q, rfl, sent, splits', -, location, path⟩ :=
    (posts entry new request shows).of_post post
  · cases none
  · exact ⟨q, sent, rfl, splits', location, path.2 base⟩

/-- A launch with settings that were found valid asks for authentication at another path than that
of the URL that they were given, without slashes at its end, followed by the operation, and no
client objects. -/
def Strays (given : String) : Prop :=
  ∃ s url sent request, ofJson (namedBy given) = .ok s ∧ Url.split given = .ok url ∧
    s.eventsUrl = none ∧ requested (launchedWith s) = [request] ∧
    Http.objection? request.url request = none ∧ Url.split request.url = .ok sent ∧
    sent.path ≠ Text.trimEnd '/' url.path ++ "/api/v1/init"

/-- A query and parameters of the last segment get into the way. -/
theorem requests_below_strayed :
    Strays "https://healing.test/?tenant=a" ∧ Strays "https://healing.test/a;b" :=
  ⟨⟨servedAt "https://healing.test/?tenant=a", _, _, _, ofJson_namedBy rfl, rfl, rfl,
      by with_unfolding_all rfl, by with_unfolding_all rfl, rfl, by decide⟩,
    ⟨servedAt "https://healing.test/a;b", _, _, _, ofJson_namedBy rfl, rfl, rfl,
      by with_unfolding_all rfl, by with_unfolding_all rfl, rfl, by decide⟩⟩

end Concrete

end Settings

end LocatorHealing
