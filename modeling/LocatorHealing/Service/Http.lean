import LocatorHealing.Json.Reader
import LocatorHealing.Service.Basic
import LocatorHealing.Service.Client
import LocatorHealing.Service.Reply
import LocatorHealing.Settings

set_option autoImplicit false
set_option relaxedAutoImplicit false

/-!
The healing service over HTTP: JSON is posted to a URL below the service's endpoint, and a reply is
read as JSON. A reply that redirects the request is followed, by requests that get without posting
and keep the headers that do not describe a body. A reply with any status but a good one, an
unreachable service and one that does not answer in time are faults of the service; of these,
authentication tells some statuses apart.
-/

namespace LocatorHealing

namespace Http

variable {ε τ : Type}

/-- A request as it goes out. A header given twice counts as given last. -/
def request (url : String) (payload : Json) (headers : Members) (timeout : τ) : HttpRequest τ :=
  { url := (Url.target url).1
    timeout
    headers := Members.ofPairs (headers.map fun p => (Text.capitalized p.1, p.2))
    body := Json.write .spaced payload }

section Replies

variable (ε) [Outside ε τ]

/-- The JSON in the body of a reply; a blank body stands for an empty object. -/
def contentOf (octets : List UInt8) : Except Fault Json :=
  match Utf8.decode octets with
  | .error defect => .error (.undecodable defect)
  | .ok s =>
    let body := Text.ofChars s
    if Text.isAllBlank body then .ok (.obj [])
    else
      match @Json.parse (Outside.nesting ε) body with
      | .ok v => .ok v
      | .error place => .error (.malformed place)

/-- Read how a request ended, given the time that it was allowed. -/
def readAnswer (timeout : String) : Except Fault HttpAnswer → Except Fault Json
  | .ok (.reply status octets _) =>
    if 200 ≤ status ∧ status < 300 then contentOf ε octets
    else .error (.refused status (Text.ofChars (Utf8.decodeLossy octets)))
  | .ok (.unreachable reason) => .error (.unreachable reason)
  | .error fault => .error (if fault.kind = .timeout then .unanswered timeout else fault)

end Replies

/-- Why a URL cannot be requested: it names no scheme, or its network location is none. -/
def refusal? (url : String) : Option Fault :=
  let (target, hasScheme) := Url.target url
  if hasScheme then
    match Url.split target with
    | .ok _ => none
    | .error defect => some (.badUrl defect)
  else some (.unknownScheme target)

section Redirects

/-- Whether a request goes on where a reply with this status redirects it to. -/
def goesOn (method : HttpMethod) (status : Int) : Bool :=
  [301, 302, 303].contains status || (method = .get && [307, 308].contains status)

def describesBody (name : String) : Bool :=
  ["content-length", "content-type"].contains (Text.lower name)

def followUp (r : HttpRequest τ) (url : String) : FollowUp τ :=
  { url := (Url.target url).1, timeout := r.timeout,
    headers := r.headers.filter fun p => !describesBody p.1 }

/-- A request has been redirected to a URL four times, or to ten URLs in all. -/
def isCircling (visited : List String) (url : String) : Bool :=
  4 ≤ visited.count url || 10 ≤ visited.eraseDups.length

/-- A request is redirected to URLs with one of three schemes only. -/
def isFollowed (url : String) : Bool :=
  match Url.split url with
  | .ok parts => ["http", "https", "ftp"].contains parts.scheme
  | .error _ => false

def redirectLimit : Nat := 40

variable (ε) [Outside ε τ]

/-- Why a client, if there is one, does not send a request to a URL. -/
def objected? (url : String) (r : HttpRequest τ) : Option Fault :=
  if Outside.checksRequests ε then objection? url r else none

/-- Why nothing leaves for a request to a URL. -/
def barrier? (url : String) (r : HttpRequest τ) : Option Fault :=
  (refusal? url).or (objected? ε url r)

/-- The URL at which a request goes on after an answer, if it does, or why it cannot go on there. A
redirection that is not followed is the reply. -/
def redirection (visited : List String) (r : HttpRequest τ) :
    Except Fault HttpAnswer → Except Fault (Option String)
  | .ok (.reply status _ (some url)) =>
    if goesOn r.method status then
      match refusal? url with
      | some fault => .error fault
      | none =>
        if isCircling visited url || !isFollowed url then .ok none
        else
          match objected? ε url (followUp r url).request with
          | some fault => .error fault
          | none => .ok (some url)
    else .ok none
  | _ => .ok none

variable {ε}

/-- Send a request, and whatever it is redirected to. -/
def exchange :
    (left : Nat) → (visited : List String) → HttpRequest τ → ε →
      Exchange τ (FollowUp τ) HttpAnswer × ε
  | 0, _, r, s =>
    let (x, s) := Outside.send r s
    (x.lift, s)
  | left + 1, visited, r, s =>
    let (x, s) := Outside.send r s
    match redirection ε visited r x.answer with
    | .error fault => (⟨x.lift.happenings, .error fault⟩, s)
    | .ok none => (x.lift, s)
    | .ok (some url) =>
      let further := followUp r url
      let (y, s) := exchange left (url :: visited) further.request s
      (⟨x.lift.happenings ++ .send further :: y.happenings, y.answer⟩, s)

def sending (r : HttpRequest τ) : Call ε τ HttpAnswer :=
  ⟨some (.http r), exchange redirectLimit [] r⟩

end Redirects

/-- Post JSON. A URL that cannot be requested is refused before anything leaves. -/
def post [Outside ε τ] [TimeScale τ] (url : String) (payload : Json) (headers : Members)
    (timeout : τ) : Call ε τ Json :=
  let r := request url payload headers timeout
  match barrier? ε url r with
  | some fault => .fail fault
  | none => (sending r).mapAnswer (readAnswer ε (TimeScale.text timeout))

theorem event_post [Outside ε τ] [TimeScale τ] {url : String} {payload : Json} {headers : Members}
    {timeout : τ} {event : Event τ}
    (h : (post url payload headers timeout : Call ε τ Json).event = some event) :
    event = .http (request url payload headers timeout) := by
  unfold post at h
  dsimp only at h
  split at h
  · cases h
  · exact (Option.some.inj h).symm

end Http

namespace Inquiry

variable {τ : Type}

def endpoint (settings : Settings τ) : Inquiry τ → String
  | .init _ _ endpoint _ => endpoint
  | .token _ _ endpoint => endpoint
  | .log _ => settings.serviceUrl
  | .heal _ => settings.serviceUrl
  | .poll endpoint _ _ _ => endpoint

def url (settings : Settings τ) (q : Inquiry τ) : String :=
  Text.trimEnd '/' (q.endpoint settings) ++ "/api/v1/" ++ q.operation

def reportMembers (r : LookupReport) (user : Members) (ai : Members) : Members :=
  [("locatorType", .str r.strategy), ("locatorValue", .str r.value)] ++ user ++
    [("groupId", Json.ofText? r.groupId), ("sessionId", r.sessionId)] ++ ai ++
    [("regionInfo", .str r.region)]

def payload : Inquiry τ → Json
  | .init _ user _ version => .obj [("user", Json.ofText? user), ("clientVersion", .str version)]
  | .token sessionId bearer _ => .obj [("sessionId", sessionId), ("token", Json.ofText? bearer)]
  | .log r => .obj (reportMembers r [] [])
  | .heal r =>
    .obj (reportMembers r.toLookupReport [("userId", Json.ofText? r.userId)]
      [("isGroupAIEnabled", .bool r.groupAi)])
  | .poll _ sessionId _ _ => .obj [("sessionId", sessionId)]

/-- The headers that name the user and the access key, if both are there. -/
def credentialHeaders (key user : Option String) : Members :=
  match user.filter (· ≠ ""), key.filter (· ≠ "") with
  | some user, some key => [("x-selfheal-user", .str user), ("x-selfheal-key", .str key)]
  | _, _ => []

def tokenHeaders (bearer : Option String) : Members :=
  match bearer.filter (· ≠ "") with
  | some t => [("Authorization", .str ("Bearer " ++ t))]
  | none => []

def headers (settings : Settings τ) (q : Inquiry τ) : Members :=
  [("Content-Type", .str "application/json"),
    ("x-selfheal-client", .str ("selfheal-python/" ++ settings.clientVersion))] ++
    match q with
    | .init key user _ _ => credentialHeaders key user
    | .token _ bearer _ => tokenHeaders bearer
    | .poll _ _ bearer _ => tokenHeaders bearer
    | _ => []

def timeout [TimeScale τ] (settings : Settings τ) : Inquiry τ → τ
  | .poll _ _ _ (some limit) => TimeScale.least settings.requestTimeout limit
  | _ => settings.requestTimeout

def hasStatus (fault : Fault) (n : Int) : Bool :=
  fault.status.same (.num (.int n))

/-- A fault of the service during authentication, by its status. -/
def authenticationFault (fault : Fault) : Fault :=
  if !fault.kind.isService then fault
  else if hasStatus fault 426 then .outdated fault.message fault.status
  else if hasStatus fault 401 || hasStatus fault 403 then .rejected fault.message fault.status
  else fault

def readAnswer : (q : Inquiry τ) → Except Fault Json → Except Fault q.Answer
  | .init _ _ _ _, .ok reply => AuthResult.ofJson reply
  | .init _ _ _ _, .error fault => .error (authenticationFault fault)
  | .token _ _ _, r => r.map fun _ => ()
  | .log _, r => r.bind Service.scriptOf
  | .heal _, r => r.bind Service.scriptOf
  | .poll _ _ _ _, r => r.bind Service.healedLocatorOf

end Inquiry

def Service.http {ε τ : Type} [Outside ε τ] [TimeScale τ] (settings : Settings τ) :
    Service ε τ where
  call q :=
    (Http.post (q.url settings) q.payload (q.headers settings) (q.timeout settings)).mapAnswer
      q.readAnswer
  shows_request q event h := by
    rw [Call.event_mapAnswer] at h
    exact ⟨_, Http.event_post h⟩

end LocatorHealing
