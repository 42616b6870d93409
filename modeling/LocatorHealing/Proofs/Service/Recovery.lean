import LocatorHealing.Proofs.Action.Request
import LocatorHealing.Proofs.Files.Growth
import LocatorHealing.Proofs.Healing.Frame
import LocatorHealing.Proofs.Json.Printed
import LocatorHealing.Proofs.Service.Redirects
import LocatorHealing.Proofs.Service.Request
import LocatorHealing.Proofs.Session.Driver
import LocatorHealing.Proofs.Still
import LocatorHealing.Proofs.Text.Pieces
import Mathlib.Data.List.TakeWhile

set_option autoImplicit false
set_option relaxedAutoImplicit false

/-!
A lookup is recovered from the request that reports it. Both halves of the locator are escaped for a
script and then for JSON, and the hint where to route the request is JSON that goes through both
again. The decoders undo this in order, and give back the very lookup, whatever quotes, backslashes,
control characters and characters beyond ASCII there are in it.
-/

namespace LocatorHealing

open LocatorHealing.Action (Keeps)

/-- A lookup as it is read out of the body of a request. -/
structure RecoveredLookup where
  strategy : String
  value : String
  groupId : Option String
  sessionId : Option String
  region : Json

/-- A failed lookup as it is read out of the body of a request. -/
structure RecoveredFailure extends RecoveredLookup where
  userId : Option String
  groupAi : Bool

namespace Members

variable (m : Members)

def unescaped? (name : String) : Option String :=
  match m.get? name with
  | some (.str s) => some (ScriptLiteral.unescape s)
  | _ => none

def textOrNull? (name : String) : Option (Option String) :=
  match m.get? name with
  | some (.str s) => some (some s)
  | some .null => some none
  | _ => none

def flag? (name : String) : Option Bool :=
  match m.get? name with
  | some (.bool b) => some b
  | _ => none

end Members

def Json.membersOf? [Json.Nesting] (body : String) : Option Members :=
  match Json.parse body with
  | .ok (.obj m) => some m
  | _ => none

def RecoveredLookup.ofMembers? [Json.Nesting] (m : Members) : Option RecoveredLookup := do
  let strategy ← m.unescaped? "locatorType"
  let value ← m.unescaped? "locatorValue"
  let groupId ← m.textOrNull? "groupId"
  let sessionId ← m.textOrNull? "sessionId"
  let region ← (Json.parse (← m.unescaped? "regionInfo")).toOption
  return { strategy, value, groupId, sessionId, region }

def RecoveredFailure.ofMembers? [Json.Nesting] (m : Members) : Option RecoveredFailure := do
  let lookup ← RecoveredLookup.ofMembers? m
  let userId ← m.textOrNull? "userId"
  let groupAi ← m.flag? "isGroupAIEnabled"
  return { lookup with userId, groupAi }

def RecoveredLookup.ofBody? [Json.Nesting] (body : String) : Option RecoveredLookup :=
  (Json.membersOf? body).bind ofMembers?

def RecoveredFailure.ofBody? [Json.Nesting] (body : String) : Option RecoveredFailure :=
  (Json.membersOf? body).bind ofMembers?

section Texts

open Json

theorem Text.IsWhole.escape {s : String} (whole : Text.IsWhole s) :
    Text.IsWhole (ScriptLiteral.escape s) := by
  have backslash : CodePoint.IsPlain '\\' := CodePoint.isPlain_of_lt (by decide)
  have replaces : CodePoint.Replaces ScriptLiteral.escapeChar :=
    { own := fun c other => by
        refine if_neg fun escaped => other ?_
        rcases escaped with rfl | rfl | rfl
        all_goals exact CodePoint.isPlain_of_lt (by decide)
      some := fun c _ => by
        unfold ScriptLiteral.escapeChar
        split
        · exact List.cons_ne_nil _ _
        · exact List.cons_ne_nil _ _
      plain := fun c plain d there => by
        unfold ScriptLiteral.escapeChar at there
        split at there
        · obtain rfl | rfl : d = '\\' ∨ d = c := by simpa using there
          · exact backslash
          · exact plain
        · rwa [List.mem_singleton.1 there] }
  rw [isWhole_iff] at whole ⊢
  intro point there
  rw [ScriptLiteral.escape, String.toList_ofList, ScriptLiteral.escapeChars,
    CodePoint.read_flatMap replaces] at there
  obtain ⟨q, member, replaced⟩ := List.mem_flatMap.1 there
  cases q with
  | half k => exact absurd (whole _ member) (Option.some_ne_none k)
  | char c =>
    obtain ⟨d, -, rfl⟩ := List.mem_map.1 replaced
    rfl

private theorem whole_write (v : Json) : Text.IsWhole (Json.write .spaced v) :=
  ⟨_, rfl⟩

namespace Url

open CodePoint

private theorem whole_significant {s : List Char} (whole : Whole s) : Whole (significant s) := by
  refine Text.whole_without ?_ _
  have low : ∀ c ∈ s.takeWhile (·.toNat ≤ 32), IsPlain c := by
    intro c there
    have := List.mem_takeWhile_imp there
    simp only [decide_eq_true_eq] at this
    exact isPlain_of_lt (by omega)
  refine (whole_plain_append low).1 ?_
  rwa [List.takeWhile_append_dropWhile]

private theorem whole_cutScheme {s : List Char} (whole : Whole s) : Whole (cutScheme s).2 := by
  unfold cutScheme
  split
  · rename_i word rest cuts
    split
    · split
      · rw [Text.eq_of_cutFirst cuts, whole_append_cons (isPlain_of_lt (by decide))] at whole
        exact whole.2
      · exact whole
    · exact whole
  · exact whole

private theorem isPlain_of_endsLocation {c : Char} (ends : endsLocation c = true) : IsPlain c := by
  simp only [endsLocation, Bool.or_eq_true, beq_iff_eq] at ends
  rcases ends with (rfl | rfl) | rfl
  all_goals exact isPlain_of_lt (by decide)

private theorem whole_cutLocation {s : List Char} (whole : Whole s) : Whole (cutLocation s).1 := by
  unfold cutLocation
  split
  · rename_i rest
    have slash : IsPlain '/' := isPlain_of_lt (by decide)
    have inner : Whole rest :=
      ((whole_append_cons (s := []) slash).1 ((whole_append_cons (s := []) slash).1 whole).2).2
    have parts := List.takeWhile_append_dropWhile (p := (!endsLocation ·)) (l := rest)
    cases after : rest.dropWhile (!endsLocation ·) with
    | nil => rwa [← parts, after, List.append_nil] at inner
    | cons c others =>
      have ends : endsLocation c = true := by
        have stops := List.head?_dropWhile_not (!endsLocation ·) rest
        rw [after] at stops
        simpa using stops
      rw [← parts, after, whole_append_cons (isPlain_of_endsLocation ends)] at inner
      exact inner.1
  · exact nofun

private theorem whole_location {s : String} {url : Url} (whole : Text.IsWhole s)
    (splits : Url.split s = .ok url) : Text.IsWhole url.location := by
  have location : url.location =
      String.ofList (cutLocation (cutScheme (significant s.toList)).2).1 := by
    unfold split at splits
    dsimp only at splits
    split at splits
    · cases splits
    · split at splits
      · cases splits
      · cases splits
        rfl
  rw [Text.isWhole_iff] at whole ⊢
  rw [location, String.toList_ofList]
  exact whole_cutLocation (whole_cutScheme (whole_significant whole))

end Url

end Texts

variable {ε τ : Type}

/-- Where the service is to route requests to: to a network location, for a region. -/
def routeTo (region location : String) : Json :=
  .obj [("region", .str region),
    ("serviceUrls", .obj [(region, .obj [("endpoint", .str location)])])]

section Bodies

open Json

variable {n : Nat}

theorem plain_ofText? {text? : Option String} (whole : ∀ s ∈ text?, Text.IsWhole s) :
    Plain n (Json.ofText? text?) := by
  cases text? with
  | none => exact .null
  | some s => exact .str (whole s rfl)

theorem Json.Plain.named {m : Members} (names : List String) (named : m.names = names)
    (distinct : names.Nodup) (printed : ∀ name ∈ names, Printed name.toList)
    (plain : ∀ v ∈ m.map Prod.snd, Plain n v) : Plain (n + 1) (.obj m) := by
  refine .obj (named ▸ distinct) (fun p member => ?_) fun p member => ?_
  · exact (printed p.1 (named ▸ List.mem_map_of_mem member)).whole
  · exact plain p.2 (List.mem_map_of_mem member)

private theorem plain_routeTo {region location : String} (whole : Text.IsWhole region)
    (located : Text.IsWhole location) : Plain 3 (routeTo region location) := by
  have endpoint : Plain 1 (.obj [("endpoint", .str location)]) := by
    refine .named ["endpoint"] rfl (by decide) (by decide) fun v member => ?_
    obtain rfl := List.mem_singleton.1 member
    exact .str located
  have urls : Plain 2 (.obj [(region, .obj [("endpoint", .str location)])]) := by
    refine .obj (by simp [Members.names]) (fun p member => ?_) fun p member => ?_
    · obtain rfl := List.mem_singleton.1 member
      exact whole
    · obtain rfl := List.mem_singleton.1 member
      exact endpoint
  refine .named ["region", "serviceUrls"] rfl (by decide) (by decide) ?_
  exact List.forall_mem_cons.2 ⟨.str whole, List.forall_mem_singleton.2 urls⟩

private theorem Settings.regionHint_eq {s : Settings τ} {url : Url}
    (splits : Url.split s.serviceUrl = .ok url) :
    s.regionHint =
      ScriptLiteral.escape (Json.write .spaced (routeTo s.region url.location)) := by
  have host : s.serviceHost = url.location := by rw [serviceHost, splits]
  rw [← host]
  rfl

private theorem Members.textOrNull?_ofText? {m : Members} {name : String} {text? : Option String}
    (there : m.get? name = some (Json.ofText? text?)) : m.textOrNull? name = some text? := by
  rw [textOrNull?, there]
  cases text? with
  | none => rfl
  | some s => rfl

private theorem Members.unescaped?_escape {m : Members} {name s : String}
    (there : m.get? name = some (.str (ScriptLiteral.escape s))) : m.unescaped? name = some s := by
  rw [unescaped?, there]
  exact congrArg some (ScriptLiteral.unescape_escape s)

private theorem RecoveredLookup.ofMembers?_eq [Nesting] {m : Members} {strategy value : String}
    {groupId id : Option String} {region : Json}
    (strategies : m.get? "locatorType" = some (.str (ScriptLiteral.escape strategy)))
    (values : m.get? "locatorValue" = some (.str (ScriptLiteral.escape value)))
    (groups : m.get? "groupId" = some (Json.ofText? groupId))
    (sessions : m.get? "sessionId" = some (Json.ofText? id))
    (hints : m.get? "regionInfo" =
      some (.str (ScriptLiteral.escape (Json.write .spaced region))))
    (plain : Plain 3 region) :
    ofMembers? m = some { strategy, value, groupId, sessionId := id, region } := by
  have parsed : (Json.parse (Json.write .spaced region)).toOption = some region := by
    rw [parse_write Format.separates_spaced plain (Nat.le_trans (by decide) Nesting.few)]
    rfl
  simp only [ofMembers?, Members.unescaped?_escape strategies, Members.unescaped?_escape values,
    Members.unescaped?_escape hints, Members.textOrNull?_ofText? groups,
    Members.textOrNull?_ofText? sessions, parsed, Option.bind_eq_bind, Option.bind_some]
  rfl

private theorem RecoveredFailure.ofMembers?_eq [Nesting] {m : Members} {lookup : RecoveredLookup}
    {userId : Option String} {groupAi : Bool}
    (looks : RecoveredLookup.ofMembers? m = some lookup)
    (users : m.get? "userId" = some (Json.ofText? userId))
    (flags : m.get? "isGroupAIEnabled" = some (.bool groupAi)) :
    ofMembers? m = some { lookup with userId, groupAi } := by
  have flag : m.flag? "isGroupAIEnabled" = some groupAi := by rw [Members.flag?, flags]
  simp only [ofMembers?, looks, Members.textOrNull?_ofText? users, flag, Option.bind_eq_bind,
    Option.bind_some]
  rfl

private theorem Json.membersOf?_write [Nesting] {m : Members} (plain : Plain n (.obj m))
    (deep : n ≤ Nesting.limit) :
    membersOf? (Json.write .spaced (.obj m)) = some m := by
  rw [membersOf?, parse_write Format.separates_spaced plain deep]

end Bodies

/-- All that reports on a lookup say is made of characters. -/
structure Healing.Encodable (h : Healing ε τ) (strategy value : String) (id : Option String) :
    Prop where
  strategy : Text.IsWhole strategy
  value : Text.IsWhole value
  session : ∀ s ∈ id, Text.IsWhole s
  group : ∀ s ∈ h.auth.groupId, Text.IsWhole s
  user : ∀ s ∈ h.auth.userId, Text.IsWhole s
  region : Text.IsWhole h.settings.region
  service : Text.IsWhole h.settings.serviceUrl

namespace Healing

open Json

variable {h : Healing ε τ} {strategy value : String} {id : Option String}

def reportOf (h : Healing ε τ) (strategy value : String) (id : Option String) : LookupReport :=
  { strategy := ScriptLiteral.escape strategy, value := ScriptLiteral.escape value
    groupId := h.auth.groupId, sessionId := Json.ofText? id, region := h.settings.regionHint }

variable (encodable : h.Encodable strategy value id) {url : Url}
  (splits : Url.split h.settings.serviceUrl = .ok url)
include encodable

private theorem Encodable.plain_reportMembers {user ai : Members}
    (users : ∀ v ∈ user.map Prod.snd, Plain 0 v)
    (ais : ∀ v ∈ ai.map Prod.snd, Plain 0 v) :
    ∀ v ∈ (Inquiry.reportMembers (h.reportOf strategy value id) user ai).map Prod.snd,
      Plain 0 v := by
  have text {s : String} (whole : Text.IsWhole s) : Plain 0 (.str (ScriptLiteral.escape s)) :=
    .str whole.escape
  have group : Plain 0 (Json.ofText? h.auth.groupId) := plain_ofText? encodable.group
  have session : Plain 0 (Json.ofText? id) := plain_ofText? encodable.session
  have region : Plain 0 (.str h.settings.regionHint) := .str (whole_write _).escape
  simp only [Inquiry.reportMembers, List.map_append, List.map_cons, List.map_nil,
    List.forall_mem_append, List.forall_mem_cons]
  exact ⟨⟨⟨⟨⟨text encodable.strategy, text encodable.value, nofun⟩, users⟩,
    ⟨group, session, nofun⟩⟩, ais⟩, ⟨region, nofun⟩⟩

variable [TimeScale τ]
include splits

private theorem Encodable.recovers_log [Nesting] (client : Settings τ) :
    RecoveredLookup.ofBody?
        ((Inquiry.log (h.reportOf strategy value id)).request client).body =
      some { strategy, value, groupId := h.auth.groupId, sessionId := id
             region := routeTo h.settings.region url.location } := by
  have plain : Plain 1 (Inquiry.log (τ := τ) (h.reportOf strategy value id)).payload :=
    .named ["locatorType", "locatorValue", "groupId", "sessionId", "regionInfo"] rfl (by decide)
      (by decide) (encodable.plain_reportMembers nofun nofun)
  rw [RecoveredLookup.ofBody?, Inquiry.body_request, Inquiry.payload,
    Json.membersOf?_write plain (Nat.le_trans (by decide) Nesting.few), Option.bind_some]
  refine RecoveredLookup.ofMembers?_eq rfl rfl rfl rfl ?_
    (plain_routeTo encodable.region (Url.whole_location encodable.service splits))
  rw [← Settings.regionHint_eq splits]
  rfl

private theorem Encodable.recovers_heal [Nesting] (client : Settings τ) {report : FailureReport}
    (reports : report = { h.reportOf strategy value id with
      userId := h.auth.userId, groupAi := h.auth.isGroupAiEnabled == some true }) :
    RecoveredFailure.ofBody? ((Inquiry.heal report).request client).body =
      some { strategy, value, groupId := h.auth.groupId, sessionId := id
             region := routeTo h.settings.region url.location, userId := h.auth.userId
             groupAi := h.auth.isGroupAiEnabled == some true } := by
  subst reports
  have plain : Plain 1 (Inquiry.heal (τ := τ) { h.reportOf strategy value id with
      userId := h.auth.userId, groupAi := h.auth.isGroupAiEnabled == some true }).payload :=
    .named ["locatorType", "locatorValue", "userId", "groupId", "sessionId", "isGroupAIEnabled",
      "regionInfo"] rfl (by decide) (by decide)
      (encodable.plain_reportMembers (List.forall_mem_singleton.2 (plain_ofText? encodable.user))
        (List.forall_mem_singleton.2 (.bool _)))
  rw [RecoveredFailure.ofBody?, Inquiry.body_request, Inquiry.payload,
    Json.membersOf?_write plain (Nat.le_trans (by decide) Nesting.few), Option.bind_some]
  refine RecoveredFailure.ofMembers?_eq ?_ rfl rfl
  refine RecoveredLookup.ofMembers?_eq rfl rfl rfl rfl ?_
    (plain_routeTo encodable.region (Url.whole_location encodable.service splits))
  rw [← Settings.regionHint_eq splits]
  rfl

end Healing

section Posts

variable {α : Type} {P : HttpRequest τ → Prop}

/-- A request is of a kind, or it is sent where a request of this kind was redirected to. -/
inductive HttpRequest.Stems (P : HttpRequest τ → Prop) : HttpRequest τ → Prop where
  | first {r : HttpRequest τ} (kind : P r) : Stems P r
  | further {r : HttpRequest τ} {f : FollowUp τ} (kind : P r) (continues : Http.Continues r f) :
    Stems P f.request

theorem HttpRequest.Stems.mono {Q : HttpRequest τ → Prop} {r : HttpRequest τ} (stems : r.Stems P)
    (weaker : ∀ request, P request → Q request) : r.Stems Q := by
  cases stems with
  | first kind => exact .first (weaker _ kind)
  | further kind continues => exact .further (weaker _ kind) continues

theorem HttpRequest.Stems.of_post {r : HttpRequest τ} (stems : r.Stems P)
    (posted : r.method = .post) : P r := by
  cases stems with
  | first kind => exact kind
  | further => cases posted

/-- From one world to another, all requests stem from some of a kind. -/
def World.Posts (P : HttpRequest τ → Prop) (w v : World ε τ) : Prop :=
  w.Adds (fun event => ∀ request, event = .http request → request.Stems P) v

theorem World.posts_of_trace {w v : World ε τ} (same : v.trace = w.trace) : w.Posts P v :=
  .of_trace same

theorem World.Posts.mono {Q : HttpRequest τ → Prop} {w v : World ε τ} (posts : w.Posts P v)
    (weaker : ∀ request, P request → Q request) : w.Posts Q v :=
  Adds.mono posts fun _ all request shows => (all request shows).mono weaker

theorem frame_posts : Frame (World.Posts (ε := ε) P) :=
  frame_adds fun event => ∀ request, event = .http request → request.Stems P

namespace World.Posts

theorem note {event : Event τ} (posts : ∀ request, event = .http request → P request) :
    Keeps (World.Posts P) (Action.note event : Action ε τ Unit) :=
  Action.adds_note fun request shows => .first (posts request shows)

variable [TimeScale τ]

theorem perform {call : Call ε τ α} (follows : call.Follows)
    (posts : ∀ request, call.event = some (.http request) → P request) :
    Keeps (World.Posts P) (Action.perform call) := by
  refine Action.adds_perform (fun event shows request same => .first (posts request (same ▸ shows)))
    fun event passes request same => ?_
  cases passes with
  | quit key => cases same
  | send sent =>
    obtain ⟨r, shows, continues⟩ := follows _ _ sent
    rw [← Event.http.inj same]
    exact .further (posts r shows) continues

theorem command (key : String) (command : Command) (exchange : ε → Exchange τ Empty α × ε) :
    Keeps (World.Posts P) (Action.perform (Call.showing (.driver key command) exchange)) :=
  perform (Call.follows_showing _ exchange) fun _ shows => nomatch Option.some.inj shows

theorem ask {service : Service ε τ} {q : Inquiry τ} (follows : (service.call q).Follows)
    (posts : ∀ request, (service.call q).event = some (.http request) → P request) :
    Keeps (World.Posts P) (Action.ask service q) :=
  frame_posts.keeps_bind (note nofun) fun _ => perform follows posts

variable [Outside ε τ]

theorem driverLookup (key : String) (strategy value : Json) :
    Keeps (World.Posts P) (Session.driverLookup key strategy value : Action ε τ Outcome) :=
  Session.keeps_driverLookup_of frame_posts.refl fun w _ => command _ _ _ w

theorem execute (key script : String) (arguments : List Json) :
    Keeps (World.Posts P) (Session.execute key script arguments : Action ε τ Json) :=
  Session.keeps_execute_of frame_posts.refl fun w _ => command _ _ _ w

end World.Posts

theorem Healing.Run.posts_start [Outside ε τ] [TimeScale τ] {r : Run ε τ} {client : Settings τ}
    (http : r.healing.service = Service.http client)
    (looks : ∀ strategy value, Keeps (World.Posts P) (r.look strategy value)) :
    Keeps (World.Posts fun request => P request ∨ ∃ q, r.Asks q ∧ request = q.request client)
      r.start := by
  have leaves (q : Inquiry τ) (request : HttpRequest τ)
      (calls : (r.healing.service.call q).event = some (.http request)) :
      request = q.request client := by
    rw [http] at calls
    exact Event.http.inj (Service.event_http calls)
  have within : r.Within
      (World.Posts fun request => P request ∨ ∃ q, r.Asks q ∧ request = q.request client) :=
    { toActs := .of_asks frame_posts
        (fun strategy value w => (looks strategy value w).mono fun _ => .inl)
        (fun q asks => .ask (http ▸ Service.follows_http client q) fun request calls =>
          .inr ⟨q, asks, leaves q request calls⟩)
        (fun script => .execute r.session script []) fun _ => .note nofun
      audits := auditKeeps_of frame_posts (fun _ _ _ => World.posts_of_trace rfl)
        fun _ _ => World.posts_of_trace rfl }
  exact within.start

end Posts

/-- The service can recover every lookup from what it is told of it. The report on a lookup is
always made; the bodies of the requests to log the lookup and to heal it give back the locator, the
session and the group, and for healing the user and whether AI is on for the group, together with
the route; and whatever the world is like, nothing is posted but these two, what polls, and what
looking up an element posts itself. -/
theorem Healing.requests_recover [Json.Nesting] [Outside ε τ] [TimeScale τ] {h : Healing ε τ}
    {client : Settings τ} (http : h.service = Service.http client)
    {look : Json → Json → Action ε τ Outcome} {P : HttpRequest τ → Prop}
    (looks : ∀ strategy value, Keeps (World.Posts P) (look strategy value))
    {strategy value : String} {id : Option String} (encodable : h.Encodable strategy value id)
    {url : Url} (splits : Url.split h.settings.serviceUrl = .ok url) (key : String)
    (options : HealingOptions) :
    let attempt : LocatorAttempt := ⟨.str strategy, .str value, Json.ofText? id⟩
    ∃ r, h.runOf look key attempt options = .ok r ∧
      RecoveredLookup.ofBody? ((Inquiry.log r.report).request client).body =
        some { strategy, value, groupId := h.auth.groupId, sessionId := id
               region := routeTo h.settings.region url.location } ∧
      RecoveredFailure.ofBody? ((Inquiry.heal r.failureReport).request client).body =
        some { strategy, value, groupId := h.auth.groupId, sessionId := id
               region := routeTo h.settings.region url.location, userId := h.auth.userId
               groupAi := h.auth.isGroupAiEnabled == some true } ∧
      ∀ w : World ε τ, ∃ t,
        ((h.run look key attempt options).run w).2.trace = w.trace ++ t ∧
        ∀ entry ∈ t, ∀ request, entry.event = .http request → request.method = .post →
          P request ∨ request = (Inquiry.log r.report).request client ∨
          request = (Inquiry.heal r.failureReport).request client ∨
          ∃ limit, request = (Inquiry.poll h.settings.serviceUrl (Json.ofText? id)
            h.auth.sessionToken (some limit)).request client := by
  intro attempt
  let r : Run ε τ :=
    { healing := h, options, session := key, attempt, report := h.reportOf strategy value id, look }
  have ready : h.runOf look key attempt options = .ok r := rfl
  refine ⟨r, ready, encodable.recovers_log splits client,
    encodable.recovers_heal splits client rfl, fun w => ?_⟩
  have runs : (h.run look key attempt options).run w =
      (r.start >>= fun e => pure e.outcome).run w := by
    rw [Healing.run, ready]
    exact Action.run_bind_ok rfl
  obtain ⟨t, grown, posts⟩ := frame_posts.keeps_bind (Run.posts_start (r := r) http looks)
    (fun e => frame_posts.keeps_pure e.outcome) w
  refine ⟨t, runs ▸ grown, fun entry member request shows posted => ?_⟩
  obtain sent | ⟨q, asks, rfl⟩ := (posts entry member request shows).of_post posted
  · exact .inl sent
  cases asks with
  | log => exact .inr (.inl rfl)
  | heal => exact .inr (.inr (.inl rfl))
  | poll limit => exact .inr (.inr (.inr ⟨limit, rfl⟩))

/-- Healing over HTTP, for a region, a group and a user whose names are hard to quote. -/
def quotedHealing : Healing Still Rat :=
  let plain := Manner.healing {}
    { groupId := some "g\\\"1'", userId := some "Zoë\n", isHealingEnabled := some true
      isGroupAiEnabled := some true }
  { plain with
    service := Service.http plain.settings
    settings := { plain.settings with region := "eu\\'\"😀\t" } }

/-- A locator with quotes of both kinds, backslashes, a control character and an emoji. -/
def quotedLocator : String :=
  "//a[text()=\"it's \\\\ \x01\"]\\😀"

/-- The lookup of that locator in a session whose identifier holds a quote. -/
def quotedAttempt : LocatorAttempt :=
  ⟨.str "xpath", .str quotedLocator, .str "s\"1"⟩

def quotedUrl : Url :=
  { scheme := "https", location := "healing.test", path := "", parameters := "", query := ""
    fragment := "" }

theorem Healing.requests_recover_quoted :
    quotedHealing.Encodable "xpath" quotedLocator (some "s\"1") ∧
    Url.split quotedHealing.settings.serviceUrl = .ok quotedUrl ∧ ∃ r : Run Still Rat,
      quotedHealing.runOf (Session.driverLookup "s") "s" quotedAttempt { selfHeal := true } =
        .ok r ∧
      @RecoveredFailure.ofBody? (Outside.nesting Still)
          ((Inquiry.heal r.failureReport).request (Manner.healing {} {}).settings).body =
        some { strategy := "xpath", value := quotedLocator, groupId := some "g\\\"1'"
               sessionId := some "s\"1", region := routeTo "eu\\'\"😀\t" "healing.test"
               userId := some "Zoë\n", groupAi := true } ∧
      ∀ entry ∈ ((quotedHealing.run (Session.driverLookup "s") "s" quotedAttempt
          { selfHeal := true }).run (Manner.world {} {} {} none "other")).2.trace,
        ∀ request, entry.event = .http request → request.method = .post →
          request = (Inquiry.log r.report).request (Manner.healing {} {}).settings ∨
          request = (Inquiry.heal r.failureReport).request (Manner.healing {} {}).settings ∨
          ∃ limit, request = (Inquiry.poll "https://healing.test" (.str "s\"1") none
            (some limit)).request (Manner.healing {} {}).settings := by
  have looks (strategy value : Json) : Keeps (World.Posts fun _ => False)
      (Session.driverLookup "s" strategy value : Action Still Rat Outcome) :=
    .driverLookup "s" strategy value
  have encodable : quotedHealing.Encodable "xpath" quotedLocator (some "s\"1") :=
    { strategy := by decide
      value := by decide
      session := by decide
      group := by decide
      user := by decide
      region := by decide
      service := by decide }
  have http : quotedHealing.service = Service.http (Manner.healing {} {}).settings := rfl
  have splits : Url.split quotedHealing.settings.serviceUrl = .ok quotedUrl := by
    with_unfolding_all rfl
  let _ := Outside.nesting Still
  obtain ⟨r, ready, -, pleaded, leaves⟩ :=
    Healing.requests_recover http looks encodable splits "s" { selfHeal := true }
  refine ⟨encodable, splits, r, ready, pleaded, fun entry member request shows posted => ?_⟩
  obtain ⟨t, grown, sent⟩ := leaves (Manner.world {} {} {} none "other")
  have new : entry ∈ [] ++ t := grown ▸ member
  exact (sent entry new request shows posted).resolve_left id

/-- The driver's command, what is asked, and the request that leaves. -/
example : ((quotedHealing.run (Session.driverLookup "s") "s" quotedAttempt
    { selfHeal := true }).run (Manner.world {} {} {} none "other")).2.trace.length = 3 := by
  decide +kernel

end LocatorHealing
