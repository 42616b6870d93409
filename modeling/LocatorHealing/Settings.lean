import LocatorHealing.Json.Access
import LocatorHealing.Options
import LocatorHealing.Text.Lines
import LocatorHealing.Url.Basic
import LocatorHealing.Variables

set_option autoImplicit false
set_option relaxedAutoImplicit false

/-!
The settings of the healing client, checked on the way in: the service is named by an absolute
http or https URL, names of browsers and domains are compared in lower case, at least one poll is
allowed, and the log level is a known one. Times are of any kind that the caller measures in.
-/

namespace LocatorHealing

/-- The levels of log records, from the least to the most severe. -/
inductive Level where
  | debug
  | info
  | warning
  | error
  | critical
  deriving DecidableEq, Repr

namespace Level

def rank : Level → Nat
  | .debug => 10
  | .info => 20
  | .warning => 30
  | .error => 40
  | .critical => 50

def name : Level → String
  | .debug => "DEBUG"
  | .info => "INFO"
  | .warning => "WARNING"
  | .error => "ERROR"
  | .critical => "CRITICAL"

def all : List Level := [.debug, .info, .warning, .error, .critical]

def ofName? (s : String) : Option Level :=
  all.find? fun level => level.name == Text.asciiCapitals s

end Level

structure Settings (τ : Type) where
  serviceUrl : String
  region : String
  clientVersion : String
  eventsUrl : Option String
  requestTimeout : τ
  pollMaxAttempts : Nat
  pollTimeout : τ
  pollInterval : τ
  supportedBrowsers : List String
  providerDomains : List String
  firefoxAddon : Option String
  chromeExtension : Option String
  firstEntryOnly : Bool
  logLevel : Level
  auditDirectory : Option String
  /-- A poll phase asks at least once. -/
  pollMaxAttempts_pos : 0 < pollMaxAttempts

namespace Settings

open Validation

def serviceUrlOf (s : String) : Checked String :=
  match Url.split s with
  | .error defect => .fail (.refused defect.text)
  | .ok url =>
    if (url.scheme = "http" ∨ url.scheme = "https") ∧ url.location ≠ "" then
      .valid (Text.trimEnd '/' s)
    else .fail (.refused "service_url must be an absolute http(s) URL")

/-- Names in lower case and without the blanks around them; those of blanks only are dropped. -/
def namesOf (names : List String) : List String :=
  (names.filter fun s => !Text.isAllBlank s).map fun s => Text.lower (Text.trim s)

def attemptsOf (n : Int) : Checked { n : Nat // 0 < n } :=
  if h : 1 ≤ n then .valid ⟨n.toNat, by omega⟩
  else .fail (.refused "poll_max_attempts must be at least 1")

def levelOf (s : String) : Checked Level :=
  match Level.ofName? s with
  | some level => .valid level
  | none => .fail (.refused ("Unsupported log level: " ++ s))

def defaultBrowsers : List String := ["chrome", "firefox", "microsoftedge", "edge"]

def assemble (serviceUrl region clientVersion : String) (eventsUrl : Option String)
    (requestTimeout : Number) (attempts : { n : Nat // 0 < n }) (pollTimeout pollInterval : Number)
    (supportedBrowsers providerDomains : List String) (firefoxAddon chromeExtension : Option String)
    (firstEntryOnly : Bool) (logLevel : Level) (auditDirectory : Option String) :
    Settings Number :=
  { serviceUrl, region, clientVersion, eventsUrl, requestTimeout
    pollMaxAttempts := attempts.1, pollTimeout, pollInterval
    supportedBrowsers, providerDomains, firefoxAddon, chromeExtension
    firstEntryOnly, logLevel, auditDirectory
    pollMaxAttempts_pos := attempts.2 }

/-- Check the members of an object as settings. -/
def checkFields (m : Members) : Checked (Settings Number) :=
  assemble
    <$> required m (.simple "service_url") (fun v => (text v).andThen serviceUrlOf)
    <*> withDefault m (.simple "region") text "us-east-1"
    <*> withDefault m (.simple "client_version") text "0.1.0"
    <*> optional m (.simple "events_url") text
    <*> withDefault m (.simple "request_timeout_seconds") number (.int 30)
    <*> withDefault m (.simple "poll_max_attempts") (fun v => (integer v).andThen attemptsOf)
          ⟨20, by decide⟩
    <*> withDefault m (.simple "poll_timeout_seconds") number (.int 10)
    <*> withDefault m (.simple "poll_interval_seconds") number (.real 0.5)
    <*> withDefault m (.simple "supported_browsers") (fun v => (texts v).map namesOf)
      defaultBrowsers
    <*> withDefault m (.simple "provider_domains") (fun v => (texts v).map namesOf) []
    <*> optional m (.simple "firefox_addon_path") text
    <*> optional m (.simple "chrome_extension_path") text
    <*> withDefault m (.simple "augment_first_list_entry_only") flag false
    <*> withDefault m (.simple "log_level") (fun v => (text v).andThen levelOf) .info
    <*> optional m (.simple "audit_dir") text

def check : Json → Checked (Settings Number) :=
  record "HealingSettings" checkFields

def ofJson (v : Json) : Except Fault (Settings Number) :=
  (check v).orFault "HealingSettings"

/-- The environment variables of single fields, with the fields they set. -/
def fieldVariables : List (String × String) :=
  [("SELFHEAL_REGION", "region"), ("SELFHEAL_EVENTS_URL", "events_url"),
    ("SELFHEAL_POLL_MAX_ATTEMPTS", "poll_max_attempts"),
    ("SELFHEAL_POLL_TIMEOUT", "poll_timeout_seconds"),
    ("SELFHEAL_POLL_INTERVAL", "poll_interval_seconds"),
    ("SELFHEAL_FIREFOX_ADDON", "firefox_addon_path"),
    ("SELFHEAL_CHROME_EXTENSION", "chrome_extension_path"), ("SELFHEAL_LOG_LEVEL", "log_level"),
    ("SELFHEAL_AUDIT_DIR", "audit_dir")]

/-- The data that environment variables give for settings, without the service URL. -/
def variableMembers (vars : Variables) : Members :=
  (fieldVariables.filterMap fun p => (vars.filled? p.1).map fun v => (p.2, Json.str v)) ++
    match vars.filled? "SELFHEAL_PROVIDER_DOMAINS" with
    | some domains => [("provider_domains", .arr ((Text.pieces ',' domains).map Json.str))]
    | none => []

/-- Settings out of environment variables; the service URL is the only one that has to be set. -/
def ofVariables (vars : Variables) : Except Fault (Settings Number) :=
  match vars.filled? "SELFHEAL_SERVICE_URL" with
  | none => .error .serviceUrlMissing
  | some url => ofJson (.obj (("service_url", .str url) :: variableMembers vars))

def ofFile [Json.Nesting] (octets : List UInt8) : Except Fault (Settings Number) :=
  match Utf8.decode octets with
  | .error defect => .error (.undecodable defect)
  | .ok s =>
    match Json.parse (Text.ofChars (Text.unifyLineEnds s)) with
    | .error place => .error (.malformed place)
    | .ok v => ofJson v

section Queries

variable {τ : Type}

def serviceHost (s : Settings τ) : String :=
  match Url.split s.serviceUrl with
  | .ok url => url.location
  | .error _ => ""

def supportsBrowser (s : Settings τ) (name : Json) : Except Fault Bool :=
  if !name.truthy then .ok false
  else (name.textFor "lower").map fun n => s.supportedBrowsers.contains (Text.lower n)

/-- The domains of the provider: those that are configured, or else what stands before the
first colon of the service's network location. -/
def effectiveDomains (s : Settings τ) : List String :=
  if s.providerDomains.isEmpty then
    [Text.lower (String.ofList (Text.cutFirst ':' s.serviceHost.toList).1)]
  else s.providerDomains

def belongsTo (host domain : String) : Bool :=
  host == domain || (('.' :: domain.toList).isSuffixOf host.toList)

def isProviderHost (s : Settings τ) (hostname : Json) : Except Fault Bool :=
  if !hostname.truthy then .ok false
  else
    (hostname.textFor "lower").map fun h => s.effectiveDomains.any (belongsTo (Text.lower h))

def providerKeyLength : Nat := 20

/-- User and key are texts, and the key has the length of the provider's keys. -/
def hasProviderCredentials (m : Members) : Bool :=
  match m.get? "user", m.get? "key" with
  | some (.str _), some (.str key) => (Text.codes key).length == providerKeyLength
  | _, _ => false

/-- An entry that runs on the provider's infrastructure: by its host, or without one by the
provider's credentials. -/
def isProviderEntry (s : Settings τ) (entry : Json) : Except Fault Bool := do
  let m ← entry.membersFor "get"
  match m.get? "hostname" with
  | some hostname =>
    if hostname.truthy then s.isProviderHost hostname else .ok (hasProviderCredentials m)
  | none => .ok (hasProviderCredentials m)

end Queries

end Settings

end LocatorHealing
