import LocatorHealing.Json.Quoted
import LocatorHealing.Text.Case
import LocatorHealing.Url.Address

set_option autoImplicit false
set_option relaxedAutoImplicit false

/-!
Taking a URL apart. Characters up to the blank are dropped in front, tabs and line breaks
everywhere; what is left is cut into scheme, network location, path, parameters of the last path
segment, query and fragment. The host of a network location with a bracket has to be an IPv6 or
later literal, and no character of it may turn into a delimiter under compatibility normalisation.
-/

namespace LocatorHealing

structure Url where
  scheme : String
  location : String
  path : String
  parameters : String
  query : String
  fragment : String
  deriving DecidableEq, Repr

namespace Url

/-- Why a text cannot be taken apart. -/
inductive Defect where
  | brackets
  | noAddress (host : String)
  | bracketedV4
  | futureVersion
  | hiddenDelimiter (location : String)
  deriving DecidableEq, Repr

def Defect.text : Defect → String
  | .brackets => "Invalid IPv6 URL"
  | .noAddress host => Text.quoted host ++ " does not appear to be an IPv4 or IPv6 address"
  | .bracketedV4 => "An IPv4 address cannot be in brackets"
  | .futureVersion => "IPvFuture address is invalid"
  | .hiddenDelimiter location =>
    "netloc '" ++ location ++ "' contains invalid characters under NFKC normalization"

/-- The characters whose compatibility form holds one of `/`, `?`, `#`, `@` and `:`. -/
def hidesDelimiter (c : Char) : Bool :=
  [0x2047, 0x2048, 0x2049, 0x2100, 0x2101, 0x2105, 0x2106, 0x2A74, 0xFE13, 0xFE16, 0xFE55, 0xFE56,
    0xFE5F, 0xFE6B, 0xFF03, 0xFF0F, 0xFF1A, 0xFF1F, 0xFF20].contains c.toNat

def isLetter (c : Char) : Bool :=
  let n := c.toNat
  (65 ≤ n && n ≤ 90) || (97 ≤ n && n ≤ 122)

def isSchemeChar (c : Char) : Bool :=
  isLetter c || (48 ≤ c.toNat && c.toNat ≤ 57) || c == '+' || c == '-' || c == '.'

def isIgnored (c : Char) : Bool :=
  c == '\t' || c == '\n' || c == '\r'

/-- The part of a text that counts: nothing up to the blank in front, no tabs or line breaks. -/
def significant (s : List Char) : List Char :=
  Text.without isIgnored (s.dropWhile (·.toNat ≤ 32))

/-- The scheme in lower case and what follows its colon; a text without one has none. -/
def cutScheme (s : List Char) : List Char × List Char :=
  match Text.cutFirst ':' s with
  | (word, some rest) =>
    match word with
    | c :: _ =>
      if isLetter c && word.all isSchemeChar then (word.map Text.asciiLower, rest) else ([], s)
    | [] => ([], s)
  | (_, none) => ([], s)

def endsLocation (c : Char) : Bool :=
  c == '/' || c == '?' || c == '#'

/-- The network location after two slashes, and what follows it. -/
def cutLocation (s : List Char) : List Char × List Char :=
  match s with
  | '/' :: '/' :: rest => (rest.takeWhile (!endsLocation ·), rest.dropWhile (!endsLocation ·))
  | _ => ([], s)

def checkLiteral (literal : List Char) : Option Defect :=
  if literal.head? = some 'v' then
    if isFutureLiteral literal then none else some .futureVersion
  else if isQuad literal then some .bracketedV4
  else if isV6Literal literal then none
  else some (.noAddress (String.ofList literal))

/-- What a network location names besides the user: all after the last at sign. -/
def hostAndPort (location : List Char) : List Char :=
  match Text.cutLast '@' location with
  | some (_, host) => host
  | none => location

/-- Brackets come together. A bracketed host is a literal, with nothing in front of it and only a
port after it; where just the user information has brackets, the host itself has to be one. -/
def checkBrackets (location : List Char) : Option Defect :=
  if location.contains '[' != location.contains ']' then some .brackets
  else if location.contains '[' then
    match Text.cutFirst '[' (hostAndPort location) with
    | (before, some inside) =>
      let (literal, after?) := Text.cutFirst ']' inside
      let after := after?.getD []
      if before.isEmpty && (after.isEmpty || after.head? = some ':') then checkLiteral literal
      else some .brackets
    | (host, none) => checkLiteral (Text.cutFirst ':' host).1
  else none

def parameterSchemes : List String :=
  ["", "ftp", "hdl", "prospero", "http", "imap", "https", "shttp", "rtsp", "rtsps", "rtspu", "sip",
    "sips", "mms", "sftp", "tel"]

/-- The parameters of the last segment of a path, where the scheme has any. -/
def cutParameters (scheme path : List Char) : List Char × List Char :=
  if parameterSchemes.contains (String.ofList scheme) then
    let parts := (Text.cutLast '/' path).map fun p => (p.1 ++ ['/'], p.2)
    let directory := (parts.map Prod.fst).getD []
    let segment := (parts.map Prod.snd).getD path
    match Text.cutFirst ';' segment with
    | (name, some parameters) => (directory ++ name, parameters)
    | (_, none) => (path, [])
  else (path, [])

def split (s : String) : Except Defect Url :=
  let (scheme, afterScheme) := cutScheme (significant s.toList)
  let (location, afterLocation) := cutLocation afterScheme
  match checkBrackets location with
  | some defect => .error defect
  | none =>
    let (beforeFragment, fragment) := Text.cutFirst '#' afterLocation
    let (beforeQuery, query) := Text.cutFirst '?' beforeFragment
    if location.any hidesDelimiter then .error (.hiddenDelimiter (String.ofList location))
    else
      let (path, parameters) := cutParameters scheme beforeQuery
      .ok {
        scheme := String.ofList scheme
        location := String.ofList location
        path := String.ofList path
        parameters := String.ofList parameters
        query := String.ofList (query.getD [])
        fragment := String.ofList (fragment.getD []) }

/-- The host name inside a network location: without user information and port, and without the
brackets of a literal. -/
def hostName (location : String) : String :=
  match Text.cutFirst '[' (hostAndPort location.toList) with
  | (_, some literal) => String.ofList (Text.cutFirst ']' literal).1
  | (host, none) => String.ofList (Text.cutFirst ':' host).1

/-- A text starts with a scheme of some kind: characters other than slash and colon, then a
colon. -/
def hasScheme (s : List Char) : Bool :=
  match Text.cutFirst ':' s with
  | (word, some _) => !word.isEmpty && !word.contains '/'
  | (_, none) => false

/-- The text of a URL without what may be wrapped around it: blanks, angle brackets, and the
word `URL:` in front. -/
def unwrapped (s : String) : String :=
  let t := Text.trimBy Text.isBlank s.toList
  let t :=
    if t.head? = some '<' ∧ t.getLast? = some '>' then
      Text.trimBy Text.isBlank ((t.drop 1).dropLast)
    else t
  if t.take 4 = ['U', 'R', 'L', ':'] then String.ofList (Text.trimBy Text.isBlank (t.drop 4))
  else String.ofList t

/-- The URL that a request goes to, with whether it names a scheme. An empty fragment is
dropped. -/
def target (s : String) : String × Bool :=
  let t := (unwrapped s).toList
  match Text.cutLast '#' t with
  | none => (String.ofList t, hasScheme t)
  | some (url, fragment) =>
    (String.ofList (if fragment.isEmpty then url else t), hasScheme url)

end Url

end LocatorHealing
