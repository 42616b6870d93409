import LocatorHealing.Event
import LocatorHealing.Fault
import LocatorHealing.Validation.Scalar

set_option autoImplicit false
set_option relaxedAutoImplicit false

/-!
What an HTTP client looks at before it sends a request: the host and the port that it is to connect
to, the request line and the headers. Whatever would end one of these on the wire is refused, and so
is what their codecs do not take. Requests to schemes other than those of HTTP are not looked at.
-/

namespace LocatorHealing.Http

section Host

/-- The octets of ASCII characters, with percent signs undone where two hexadecimal digits follow.
-/
def percentOctets : List Char → List UInt8
  | [] => []
  | '%' :: a :: b :: s =>
    match Json.hexValue? a, Json.hexValue? b with
    | some high, some low => (16 * high + low).toUInt8 :: percentOctets s
    | _, _ => '%'.toNat.toUInt8 :: percentOctets (a :: b :: s)
  | c :: s => c.toNat.toUInt8 :: percentOctets s

/-- A text with percent signs undone in its stretches of ASCII. -/
def unquoted (s : String) : String :=
  let stretches := (Text.codes s).splitBy fun p q => Codec.ascii.takes p == Codec.ascii.takes q
  Text.ofCodes <| stretches.flatMap fun stretch =>
    if stretch.all Codec.ascii.takes then
      (Utf8.decodeLossy (percentOctets (stretch.filterMap CodePoint.char?))).map .char
    else stretch

def zeroDigits : List Nat :=
  [0x30, 0x660, 0x6F0, 0x7C0, 0x966, 0x9E6, 0xA66, 0xAE6, 0xB66, 0xBE6, 0xC66, 0xCE6, 0xD66, 0xDE6,
    0xE50, 0xED0, 0xF20, 0x1040, 0x1090, 0x17E0, 0x1810, 0x1946, 0x19D0, 0x1A80, 0x1A90, 0x1B50,
    0x1BB0, 0x1C40, 0x1C50, 0xA620, 0xA8D0, 0xA900, 0xA9D0, 0xA9F0, 0xAA50, 0xABF0, 0xFF10, 0x104A0,
    0x10D30, 0x11066, 0x110F0, 0x11136, 0x111D0, 0x112F0, 0x11450, 0x114D0, 0x11650, 0x116C0,
    0x11730, 0x118E0, 0x11950, 0x11C50, 0x11D50, 0x11DA0, 0x16A60, 0x16AC0, 0x16B50, 0x1D7CE,
    0x1D7D8, 0x1D7E2, 0x1D7EC, 0x1D7F6, 0x1E140, 0x1E2F0, 0x1E950, 0x1FBF0]

def isDecimal (c : Char) : Bool :=
  zeroDigits.any fun first => first ≤ c.toNat && c.toNat < first + 10

/-- Digits of any script with single underscores between them, after a sign or none, and with white
space around: what is read as an integer. -/
def isNumeric (s : List Char) : Bool :=
  let body := (Validation.cutSign (Text.trimBy Text.isWhiteSpace s)).2
  let digits := body.filter (· ≠ '_')
  !digits.isEmpty && (Validation.withoutMarks? body).isSome && digits.all isDecimal &&
    digits.length ≤ Json.digitLimit

/-- What a host and port name as the host, without the brackets of a literal. A port is a number, or
left out behind its colon. -/
def hostOf (location : String) : Except Fault String :=
  let s := location.toList
  let (host, port) :=
    match Text.cutLast ':' s with
    | some (host, port) => if port.contains ']' then (s, []) else (host, port)
    | none => (s, [])
  if port.isEmpty || isNumeric port then
    if host.head? = some '[' ∧ host.getLast? = some ']' then
      .ok (String.ofList (host.drop 1).dropLast)
    else .ok (String.ofList host)
  else .error (.nonnumericPort (String.ofList port))

def isControl (c : Char) : Bool :=
  c.toNat ≤ 32 || c.toNat = 0x7F

def controlIn? (part : String) : Option Fault :=
  (part.toList.find? isControl).map (.controlInUrl part)

end Host

section Headers

def endsHeader : List Char → Bool
  | [] => false
  | c :: s =>
    (c = '\n' && !(s.head? = some ' ' || s.head? = some '\t')) ||
      (c = '\r' && !(s.head? = some ' ' || s.head? = some '\t' || s.head? = some '\n')) ||
      endsHeader s

def headerFault? (value : String) : Option Fault :=
  match Codec.latin1.defect? value with
  | some defect => some (.unencodable defect)
  | none =>
    let chars := Text.chars value
    if endsHeader chars then some (.brokenHeader (chars.map fun c => c.toNat.toUInt8)) else none

def valueFault? : Json → Option Fault
  | .str value => headerFault? value
  | _ => none

def headersFault? (headers : Members) : Option Fault :=
  headers.findSome? fun p => valueFault? p.2

end Headers

/-- What a client makes of a URL: the scheme in lower case, the network location with percent signs
undone if there is one, and what is asked for there. -/
structure Destination where
  scheme : String
  location : Option String
  selector : String

def Destination.ofUrl (url : String) : Destination :=
  let s := (Url.unwrapped url).toList
  let (scheme, rest?) := Text.cutFirst ':' (((Text.cutLast '#' s).map Prod.fst).getD s)
  let scheme := Text.lower (String.ofList scheme)
  match rest?.getD [] with
  | '/' :: '/' :: rest =>
    let path := rest.dropWhile (!Url.endsLocation ·)
    let path := if path.isEmpty || path.head? = some '/' then path else '/' :: path
    let location := String.ofList (rest.takeWhile (!Url.endsLocation ·))
    { scheme, location := unquoted location, selector := String.ofList path }
  | rest => { scheme, location := none, selector := String.ofList rest }

def methodWord : HttpMethod → String
  | .get => "GET"
  | .post => "POST"

/-- Why a request that has a host to go to is not sent there. -/
def lineFault? (method : HttpMethod) (location selector : String) (headers : Members) :
    Option Fault :=
  match hostOf location with
  | .error fault => some fault
  | .ok host =>
    let selector := if selector = "" then "/" else selector
    let line := methodWord method ++ " " ++ selector ++ " HTTP/1.1"
    controlIn? host <|> controlIn? selector <|> (Codec.ascii.defect? line).map .unencodable <|>
      headerFault? location <|> headersFault? headers

variable {τ : Type}

/-- Why a client does not send a request to a URL. -/
def objection? (url : String) (r : HttpRequest τ) : Option Fault :=
  let destination := Destination.ofUrl url
  if destination.scheme = "http" ∨ destination.scheme = "https" then
    match destination.location.filter (· ≠ "") with
    | some location => lineFault? r.method location destination.selector r.headers
    | none => some (.unreachable "no host given")
  else if ["ftp", "file", "data"].contains destination.scheme then none
  else some (.unreachable ("unknown url type: " ++ destination.scheme))

end LocatorHealing.Http
