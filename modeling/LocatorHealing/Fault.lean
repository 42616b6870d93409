import LocatorHealing.Json.Reader
import LocatorHealing.Json.Quoted
import LocatorHealing.Text.Utf8
import LocatorHealing.Url.Basic
import LocatorHealing.Validation.Basic

set_option autoImplicit false
set_option relaxedAutoImplicit false

/-!
What can go wrong, by cause. `Fault.message` words each cause, and `Fault.kind` says which class
it belongs to; error boundaries decide by the class alone.
-/

namespace LocatorHealing

/-- The classes of faults. -/
inductive FaultKind where
  | healing
  | service
  | authentication
  | upgradeRequired
  | setup
  | sessionClosed
  | driver
  | noSuchElement
  | invalidSession
  | staleElement
  | script
  | driverTimeout
  | value
  | protocol
  | runtime
  | system
  | connectionReset
  | timeout
  | key
  | type
  | member
  | overflow
  | fileMissing
  | fileExists
  | isDirectory
  | notDirectory
  | syntaxError
  | nesting
  | decoding
  | encoding
  | handover
  | validation
  deriving DecidableEq, Repr

namespace FaultKind

def isDriver : FaultKind → Bool
  | .driver | .noSuchElement | .invalidSession | .staleElement | .script | .driverTimeout => true
  | _ => false

/-- Faults of the operating system: of files and of connections. -/
def isSystem : FaultKind → Bool
  | .system | .connectionReset | .timeout | .fileMissing | .fileExists | .isDirectory
  | .notDirectory => true
  | _ => false

/-- Faults of a request to the healing service; they carry a status. -/
def isService : FaultKind → Bool
  | .service | .authentication | .upgradeRequired => true
  | _ => false

def isSessionGone : FaultKind → Bool
  | .sessionClosed | .invalidSession => true
  | _ => false

/-- The page about a fault of the driver, for the classes that have one. -/
def helpPage? : FaultKind → Option String
  | .noSuchElement => some "nosuchelementexception"
  | .invalidSession => some "invalidsessionidexception"
  | .staleElement => some "staleelementreferenceexception"
  | _ => none

end FaultKind

/-- What the file system refuses to do. -/
inductive FileCause where
  | missing
  | exists
  | isDirectory
  | notDirectory
  | nameTooLong
  deriving DecidableEq, Repr

def FileCause.text : FileCause → String
  | .missing => "[Errno 2] No such file or directory"
  | .exists => "[Errno 17] File exists"
  | .isDirectory => "[Errno 21] Is a directory"
  | .notDirectory => "[Errno 20] Not a directory"
  | .nameTooLong => "[Errno 36] File name too long"

def FileCause.kind : FileCause → FaultKind
  | .missing => .fileMissing
  | .exists => .fileExists
  | .isDirectory => .isDirectory
  | .notDirectory => .notDirectory
  | .nameTooLong => .system

def Json.Refusal.faultKind : Json.Refusal → FaultKind
  | .hugeInteger _ => .value
  | .deepArray | .deepObject => .nesting
  | _ => .syntaxError

inductive Fault where
  /-- Raised outside of this library. -/
  | raised (kind : FaultKind) (message : String) (status : Json)
  /-- The service answered with an error status. -/
  | refused (status : Int) (detail : String)
  /-- The service could not be reached. -/
  | unreachable (reason : String)
  /-- The service did not answer within the time given. -/
  | unanswered (timeout : String)
  /-- The service rejected the credentials. -/
  | rejected (message : String) (status : Json)
  /-- The service no longer accepts this version of the client. -/
  | outdated (message : String) (status : Json)
  | sessionClosed
  | namedSessionClosed (name : String)
  | closedWhileHealing (sessionId : Json)
  | cannotInstall (browser : String)
  | extensionMissing (path : String)
  | unsupportedStrategy (selector : String)
  | unsupportedBrowser (name : String)
  | unsupportedShape (kind : String)
  | emptyArgument
  | negativeSleep
  | unnumberedSleep
  /-- A number of seconds that no system sleeps for, as a whole number or as any other. -/
  | endlessSleep (isWhole : Bool)
  | unknownScheme (url : String)
  | badUrl (defect : Url.Defect)
  /-- The port in a URL is no number. -/
  | nonnumericPort (port : String)
  /-- A part of a URL has a character that would end it on the wire. -/
  | controlInUrl (part : String) (found : Char)
  /-- The value of a header would end the header on the wire. -/
  | brokenHeader (octets : List UInt8)
  | serviceUrlMissing
  /-- A value of this kind has no such operation. -/
  | noMember (kind name : String)
  | notIterable (kind : String)
  | notSearchable (kind : String)
  | notText (kind : String)
  | numberTooLarge
  | invalid (model : String) (issues : List Validation.Issue)
  | malformed (place : Json.Malformed)
  | undecodable (defect : Utf8.Defect)
  /-- A text with something in it that a codec refuses has no octets. -/
  | unencodable (defect : Codec.Defect)
  /-- A result of authentication with such a text cannot be handed on. -/
  | notExportable (defect : Codec.Defect)
  /-- A path holds the character that ends texts for the file system. -/
  | zeroInPath
  | file (cause : FileCause) (path : String)

namespace Fault

def kind : Fault → FaultKind
  | .raised kind _ _ => kind
  | .refused _ _ | .unreachable _ | .unanswered _ => .service
  | .rejected _ _ => .authentication
  | .outdated _ _ => .upgradeRequired
  | .sessionClosed | .namedSessionClosed _ | .closedWhileHealing _ => .sessionClosed
  | .cannotInstall _ | .extensionMissing _ => .setup
  | .unsupportedStrategy _ | .unsupportedBrowser _ | .emptyArgument | .negativeSleep
  | .unnumberedSleep | .unknownScheme _ | .badUrl _ | .brokenHeader _ | .zeroInPath => .value
  | .nonnumericPort _ | .controlInUrl _ _ => .protocol
  | .unsupportedShape _ | .notIterable _ | .notSearchable _ | .notText _ => .type
  | .serviceUrlMissing => .runtime
  | .noMember _ _ => .member
  | .numberTooLarge | .endlessSleep _ => .overflow
  | .invalid _ _ => .validation
  | .malformed place => place.refusal.faultKind
  | .undecodable _ => .decoding
  | .unencodable _ => .encoding
  | .notExportable _ => .handover
  | .file cause _ => cause.kind

/-- The status that a fault of the service carries; `null` where there is none. -/
def status : Fault → Json
  | .raised kind _ status => if kind.isService then status else .null
  | .refused status _ => .num (.int status)
  | .rejected _ status | .outdated _ status => status
  | _ => .null

def helpSite : String := "www.selenium.dev/documentation/webdriver/troubleshooting"

/-- The text of a fault raised outside: a driver's fault has a line of its own, with the page
about it if there is one, and a missing key is quoted. -/
def raisedText (kind : FaultKind) (message : String) : String :=
  if kind.isDriver then
    let help :=
      match kind.helpPage? with
      | some page =>
        "; For documentation on this error, please visit: https://" ++ helpSite ++ "/errors#" ++
        page
      | none => ""
    "Message: " ++ message ++ help ++ "\n"
  else if kind = .key then Text.quoted message
  else message

/-- One octet or several, by number, where they stand, and why they are no characters. -/
def undecodableText (d : Utf8.Defect) : String :=
  if d.extra = 0 then
    "'utf-8' codec can't decode byte 0x" ++ String.ofList (Text.hex 2 d.first.toNat) ++
      " in position " ++ toString d.start ++ ": " ++ d.reason.text
  else
    "'utf-8' codec can't decode bytes in position " ++ toString d.start ++ "-" ++
      toString (d.start + d.extra) ++ ": " ++ d.reason.text

/-- One code point, by its number, or several, where they stand, and why the codec refuses them. -/
def unencodableText (d : Codec.Defect) : String :=
  let which :=
    if d.extra = 0 then
      "character '" ++ String.ofList (Text.escapeUnprinted d.unit) ++ "' in position " ++
        toString d.start
    else "characters in position " ++ toString d.start ++ "-" ++ toString (d.start + d.extra)
  "'" ++ d.codec.name ++ "' codec can't encode " ++ which ++ ": " ++ d.codec.refusal

/-- The first line of a report on data: how many issues there are with which record. -/
def reportText (model : String) (issues : List Validation.Issue) : String :=
  toString issues.length ++
    (if issues.length = 1 then " validation error for " else " validation errors for ") ++ model

def message : Fault → String
  | .raised kind message _ => raisedText kind message
  | .refused status detail =>
    "Healing service request failed with status " ++ toString status ++ ": " ++ detail
  | .unreachable reason => "Healing service request could not be completed: " ++ reason
  | .unanswered timeout => "Healing service did not answer within " ++ timeout ++ "s"
  | .rejected message _ | .outdated message _ => message
  | .sessionClosed => "Session is closed"
  | .namedSessionClosed name => "Session " ++ name ++ " is closed"
  | .closedWhileHealing sessionId =>
    "Session " ++ sessionId.display ++ " closed during healing"
  | .cannotInstall browser => "Driver for " ++ browser ++ " cannot install add-ons"
  | .extensionMissing path => "Companion extension not found at " ++ path
  | .unsupportedStrategy selector => "Unsupported locator strategy: " ++ selector
  | .unsupportedBrowser name => "Unsupported browser: " ++ name
  | .unsupportedShape kind => "Unsupported capability shape: " ++ kind
  | .emptyArgument => "argument can not be null"
  | .negativeSleep => "sleep length must be non-negative"
  | .unnumberedSleep => "Invalid value NaN (not a number)"
  | .endlessSleep false => "timestamp out of range for platform time_t"
  | .endlessSleep true => "timestamp too large to convert to C _PyTime_t"
  | .unknownScheme url => "unknown url type: " ++ Text.quoted url
  | .badUrl defect => defect.text
  | .nonnumericPort port => "nonnumeric port: '" ++ port ++ "'"
  | .controlInUrl part found =>
    "URL can't contain control characters. " ++ Text.quoted part ++ " (found at least " ++
      Text.quoted (String.singleton found) ++ ")"
  | .brokenHeader octets => "Invalid header value " ++ Text.quotedOctets octets
  | .serviceUrlMissing => "SELFHEAL_SERVICE_URL is required to enable self-healing"
  | .noMember kind name => "'" ++ kind ++ "' object has no attribute '" ++ name ++ "'"
  | .notIterable kind => "'" ++ kind ++ "' object is not iterable"
  | .notSearchable kind => "argument of type '" ++ kind ++ "' is not iterable"
  | .notText kind => "can only concatenate str (not \"" ++ kind ++ "\") to str"
  | .numberTooLarge => "int too large to convert to float"
  | .invalid model issues => reportText model issues
  | .malformed place => place.text
  | .undecodable defect => undecodableText defect
  | .unencodable defect => unencodableText defect
  | .notExportable defect =>
    "Error serializing to JSON: UnicodeEncodeError: " ++ unencodableText defect
  | .zeroInPath => "embedded null byte"
  | .file cause path => cause.text ++ ": " ++ Text.quoted path

def isDriver (f : Fault) : Bool := f.kind.isDriver

def isSystem (f : Fault) : Bool := f.kind.isSystem

def isSessionGone (f : Fault) : Bool := f.kind.isSessionGone

end Fault

/-- A value as the result of a check, with the record type that was checked for. A report that
quotes a surrogate cannot be made. -/
def Checked.orFault {α : Type} (model : String) : Checked α → Except Fault α
  | .valid a => .ok a
  | .invalid issues =>
    match issues.findSome? fun issue => Codec.utf8.defect? issue.problem.own with
    | some defect => .error (.unencodable defect)
    | none => .error (.invalid model issues)

end LocatorHealing
