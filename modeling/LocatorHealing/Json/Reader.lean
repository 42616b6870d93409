import LocatorHealing.Json.Basic
import LocatorHealing.Text.Codec

set_option autoImplicit false
set_option relaxedAutoImplicit false

/-!
Reading JSON. Beyond the standard grammar `NaN`, `Infinity` and `-Infinity` are numbers. A
refusal says what was expected and how much of the text was left at that point, from which its
line and column follow. Integers of very many digits and values nested very deeply are refused as
such. The strict reading allows less nesting and no unpaired surrogates.
-/

namespace LocatorHealing.Json

def digitLimit : Nat := 4300

def deepText (kind : String) : String :=
  "maximum recursion depth exceeded while decoding a JSON " ++ kind ++ " from a unicode string"

/-- What a reader missed or met. -/
inductive Refusal where
  | value
  | name
  | colon
  | comma
  | openString
  | control
  | escape
  | unitEscape
  | extra
  | byteOrderMark
  | surrogate
  /-- An integer of so many digits. -/
  | hugeInteger (digits : Nat)
  /-- An array or an object inside too many others. -/
  | deepArray
  | deepObject
  deriving DecidableEq, Repr

def Refusal.text : Refusal → String
  | .value => "Expecting value"
  | .name => "Expecting property name enclosed in double quotes"
  | .colon => "Expecting ':' delimiter"
  | .comma => "Expecting ',' delimiter"
  | .openString => "Unterminated string starting at"
  | .control => "Invalid control character at"
  | .escape => "Invalid \\escape"
  | .unitEscape => "Invalid \\uXXXX escape"
  | .extra => "Extra data"
  | .byteOrderMark => "Unexpected UTF-8 BOM (decode using utf-8-sig)"
  | .surrogate => "Unpaired surrogate"
  | .hugeInteger digits =>
    "Exceeds the limit (" ++ toString digitLimit ++
      " digits) for integer string conversion: value has " ++
      toString digits ++ " digits; use sys.set_int_max_str_digits() to increase the limit"
  | .deepArray => deepText "array"
  | .deepObject => deepText "object"

/-- Whether a refusal is about a place in the text and not about the size of a value. -/
def Refusal.isPlaced : Refusal → Bool
  | .hugeInteger _ | .deepArray | .deepObject => false
  | _ => true

/-- A refusal with the number of characters from its position to the end of the text. -/
structure Stop where
  refusal : Refusal
  left : Nat
  deriving DecidableEq, Repr

/-- What the ordinary and the strict reading decide differently. -/
structure Rules where
  pairedSurrogates : Bool
  /-- How deeply arrays and objects may be nested. -/
  depth : Nat
  /-- An array or an object that holds nothing may stand one level deeper. -/
  emptyIsFlat : Bool
  /-- The limit on digits holds before a fraction or an exponent too. -/
  everyWholeBounded : Bool

/-- How deeply the ordinary reading lets arrays and objects be nested. It is what the calls around
the reading leave of a limit on all calls, so that it differs from place to place; a few levels are
always left. -/
class Nesting where
  limit : Nat
  few : 8 ≤ limit

@[reducible]
def Nesting.least : Nesting := ⟨8, Nat.le_refl 8⟩

def Rules.ordinary [Nesting] : Rules := ⟨false, Nesting.limit, false, false⟩

def Rules.strict : Rules := ⟨true, 200, true, true⟩

/-- The result of reading something: it and the text after it. -/
abbrev Read (α : Type) := Except Stop (α × List Char)

def isSpace (c : Char) : Bool :=
  c == ' ' || c == '\t' || c == '\n' || c == '\r'

def skipSpace (s : List Char) : List Char :=
  s.dropWhile isSpace

def hexValue? (c : Char) : Option Nat :=
  let n := c.toNat
  if 48 ≤ n ∧ n ≤ 57 then some (n - 48)
  else if 97 ≤ n ∧ n ≤ 102 then some (n - 87)
  else if 65 ≤ n ∧ n ≤ 70 then some (n - 55)
  else none

/-- The value of four hexadecimal digits. -/
def unit? (a b c d : Char) : Option Nat := do
  let a ← hexValue? a
  let b ← hexValue? b
  let c ← hexValue? c
  let d ← hexValue? d
  return ((a * 16 + b) * 16 + c) * 16 + d

def isHighSurrogate (n : Nat) : Bool := 0xD800 ≤ n && n < 0xDC00

def isLowSurrogate (n : Nat) : Bool := 0xDC00 ≤ n && n < 0xE000

def unitPoint (rules : Rules) (n : Nat) (left : Nat) : Except Stop CodePoint :=
  if h : 0xD800 ≤ n ∧ n < 0xE000 then
    if rules.pairedSurrogates then .error ⟨.surrogate, left⟩ else .ok (.half ⟨n - 0xD800, by omega⟩)
  else .ok (.char (Char.ofNat n))

/-- The code point of an escape of a code unit, with the text after its four digits; a high
surrogate is joined with the escape of a low one after it. At least one character has to follow
the digits, which a closed string has. -/
def readUnit (rules : Rules) : List Char → Read CodePoint
  | a :: b :: c :: d :: e :: rest =>
    match unit? a b c d with
    | none => .error ⟨.unitEscape, rest.length + 6⟩
    | some high =>
      let alone : Read CodePoint :=
        (unitPoint rules high (rest.length + 6)).map fun p => (p, e :: rest)
      if isHighSurrogate high then
        match e, rest with
        | '\\', 'u' :: a' :: b' :: c' :: d' :: e' :: rest' =>
          match unit? a' b' c' d' with
          | none => .error ⟨.unitEscape, rest'.length + 6⟩
          | some low =>
            if isLowSurrogate low then
              .ok (.char (Char.ofNat (0x10000 + (high - 0xD800) * 0x400 + (low - 0xDC00))),
                e' :: rest')
            else alone
        | _, _ => alone
      else alone
  | s => .error ⟨.unitEscape, s.length + 1⟩

def readEscape (rules : Rules) (start : Nat) : List Char → Read CodePoint
  | [] => .error ⟨.openString, start⟩
  | c :: s =>
    match c with
    | '"' => .ok (.char '"', s)
    | '\\' => .ok (.char '\\', s)
    | '/' => .ok (.char '/', s)
    | 'b' => .ok (.char (Char.ofNat 8), s)
    | 'f' => .ok (.char (Char.ofNat 12), s)
    | 'n' => .ok (.char '\n', s)
    | 'r' => .ok (.char '\r', s)
    | 't' => .ok (.char '\t', s)
    | 'u' => readUnit rules s
    | _ => .error ⟨.escape, s.length + 2⟩

/-- The rest of a string whose part already read is kept backwards; `start` is the number of
characters from its opening quote to the end of the text. -/
def readStringFrom (rules : Rules) (start : Nat) :
    (fuel : Nat) → (seen : List CodePoint) → List Char → Read String
  | 0, _, _ => .error ⟨.openString, start⟩
  | _ + 1, _, [] => .error ⟨.openString, start⟩
  | fuel + 1, seen, c :: s =>
    if c = '"' then .ok (Text.ofCodes seen.reverse, s)
    else if c = '\\' then
      match readEscape rules start s with
      | .ok (p, rest) => readStringFrom rules start fuel (p :: seen) rest
      | .error stop => .error stop
    else if c.toNat < 32 then .error ⟨.control, s.length + 1⟩
    else readStringFrom rules start fuel (.char c :: seen) s

def readString (rules : Rules) (s : List Char) : Read String :=
  readStringFrom rules (s.length + 1) (s.length + 1) [] s

def isDigit (c : Char) : Bool :=
  48 ≤ c.toNat && c.toNat ≤ 57

def digitValue (c : Char) : Nat := c.toNat - 48

def digitsValue (ds : List Char) : Nat :=
  ds.foldl (fun n d => 10 * n + digitValue d) 0

/-- The digits of a fraction, if a point and at least one digit come next. -/
def readFraction (s : List Char) : List Char × List Char :=
  match s with
  | '.' :: s' =>
    let ds := s'.takeWhile isDigit
    if ds.isEmpty then ([], s) else (ds, s'.dropWhile isDigit)
  | _ => ([], s)

/-- An exponent, if its mark, perhaps a sign, and at least one digit come next. -/
def readExponent (s : List Char) : Option Int × List Char :=
  match s with
  | e :: s' =>
    if e = 'e' ∨ e = 'E' then
      let signed : Bool × List Char :=
        match s' with
        | '-' :: r => (true, r)
        | '+' :: r => (false, r)
        | r => (false, r)
      let ds := signed.2.takeWhile isDigit
      if ds.isEmpty then (none, s)
      else
        let n : Int := digitsValue ds
        (some (if signed.1 then -n else n), signed.2.dropWhile isDigit)
    else (none, s)
  | [] => (none, s)

/-- The integer part of a number: a zero, or digits that do not start with one. -/
def readWhole (s : List Char) : Option (List Char × List Char) :=
  match s with
  | [] => none
  | c :: s' =>
    if c = '0' then some (['0'], s')
    else if isDigit c then some (c :: s'.takeWhile isDigit, s'.dropWhile isDigit)
    else none

def readUnsigned (negative : Bool) (s : List Char) : Option (Number × List Char) := do
  let (whole, s₁) ← readWhole s
  let (fraction, s₂) := readFraction s₁
  let (exponent?, s₃) := readExponent s₂
  let value := digitsValue (whole ++ fraction)
  if fraction.isEmpty && exponent?.isNone then
    return (.int (if negative then -(value : Int) else value), s₃)
  else
    return (.real (Binary.ofDecimal negative value (exponent?.getD 0 - fraction.length)), s₃)

def after? : (word s : List Char) → Option (List Char)
  | [], s => some s
  | _ :: _, [] => none
  | w :: word, c :: s => if w = c then after? word s else none

/-- A value that is neither a string, an array nor an object. -/
def readScalar (s : List Char) : Option (Json × List Char) :=
  match s with
  | 'n' :: s' => (after? ['u', 'l', 'l'] s').map (Json.null, ·)
  | 't' :: s' => (after? ['r', 'u', 'e'] s').map (Json.bool true, ·)
  | 'f' :: s' => (after? ['a', 'l', 's', 'e'] s').map (Json.bool false, ·)
  | 'N' :: s' => (after? ['a', 'N'] s').map (Json.num (.real (0.0 / 0.0)), ·)
  | 'I' :: s' => (after? "nfinity".toList s').map (Json.num (.real (1.0 / 0.0)), ·)
  | '-' :: s' =>
    match after? "Infinity".toList s' with
    | some rest => some (.num (.real (-1.0 / 0.0)), rest)
    | none => (readUnsigned true s').map fun r => (.num r.1, r.2)
  | _ => (readUnsigned false s).map fun r => (.num r.1, r.2)

/-- The digits before the point of the number that a text starts with. -/
def wholeLength (s : List Char) : Nat :=
  let unsigned := match s with
    | '-' :: s' => s'
    | s => s
  ((readWhole unsigned).map fun r => r.1.length).getD 0

/-- The number of digits that keeps a value at the start of a text from being read. -/
def Rules.excess? (rules : Rules) (s : List Char) (v : Json) : Option Nat :=
  let isBounded := match v with
    | .num (.int _) => true
    | _ => rules.everyWholeBounded
  let digits := wholeLength s
  if isBounded && digitLimit < digits then some digits else none

/-- Whether an array or an object may stand inside `depth` others. -/
def Rules.allows (rules : Rules) (depth : Nat) (isEmpty : Bool) : Bool :=
  depth < rules.depth || (isEmpty && rules.emptyIsFlat)

mutual

def readValue (rules : Rules) : (fuel depth : Nat) → List Char → Read Json
  | 0, _, s => .error ⟨.value, s.length⟩
  | fuel + 1, depth, s =>
    match s with
    | '"' :: s' => (readString rules s').map fun r => (.str r.1, r.2)
    | '[' :: s' =>
      match skipSpace s' with
      | ']' :: rest =>
        if rules.allows depth true then .ok (.arr [], rest) else .error ⟨.deepArray, s.length⟩
      | items =>
        if rules.allows depth false then
          (readItems rules fuel (depth + 1) items).map fun r => (.arr r.1, r.2)
        else .error ⟨.deepArray, s.length⟩
    | '{' :: s' =>
      match skipSpace s' with
      | '}' :: rest =>
        if rules.allows depth true then .ok (.obj [], rest) else .error ⟨.deepObject, s.length⟩
      | members =>
        if rules.allows depth false then
          (readMembers rules fuel (depth + 1) members).map fun r =>
            (.obj (Members.ofPairs r.1), r.2)
        else .error ⟨.deepObject, s.length⟩
    | _ =>
      match readScalar s with
      | some (v, rest) =>
        match rules.excess? s v with
        | some digits => .error ⟨.hugeInteger digits, s.length⟩
        | none => .ok (v, rest)
      | none => .error ⟨.value, s.length⟩

/-- The items of an array up to its end; there is at least one. -/
def readItems (rules : Rules) : (fuel depth : Nat) → List Char → Read (List Json)
  | 0, _, s => .error ⟨.value, s.length⟩
  | fuel + 1, depth, s =>
    match readValue rules fuel depth s with
    | .error stop => .error stop
    | .ok (v, s') =>
      match skipSpace s' with
      | ']' :: rest => .ok ([v], rest)
      | ',' :: rest => (readItems rules fuel depth (skipSpace rest)).map fun r => (v :: r.1, r.2)
      | rest => .error ⟨.comma, rest.length⟩

/-- The members of an object up to its end; there is at least one. -/
def readMembers (rules : Rules) : (fuel depth : Nat) → List Char → Read (List (String × Json))
  | 0, _, s => .error ⟨.name, s.length⟩
  | fuel + 1, depth, s =>
    match s with
    | '"' :: s₁ =>
      match readString rules s₁ with
      | .error stop => .error stop
      | .ok (name, s₂) =>
        match skipSpace s₂ with
        | ':' :: s₃ =>
          match readValue rules fuel depth (skipSpace s₃) with
          | .error stop => .error stop
          | .ok (v, s₄) =>
            match skipSpace s₄ with
            | '}' :: rest => .ok ([(name, v)], rest)
            | ',' :: rest =>
              (readMembers rules fuel depth (skipSpace rest)).map fun r => ((name, v) :: r.1, r.2)
            | rest => .error ⟨.comma, rest.length⟩
        | rest => .error ⟨.colon, rest.length⟩
    | _ => .error ⟨.name, s.length⟩

end

def readChars (rules : Rules) (s : List Char) : Except Stop Json :=
  if s.head? = some (Char.ofNat 0xFEFF) then .error ⟨.byteOrderMark, s.length⟩
  else
    match readValue rules (2 * s.length + 2) 0 (skipSpace s) with
    | .error stop => .error stop
    | .ok (v, rest) =>
      match skipSpace rest with
      | [] => .ok v
      | extra => .error ⟨.extra, extra.length⟩

/-- Where in a text a reading stopped, and why: line and column count from one, the position
from zero. -/
structure Malformed where
  refusal : Refusal
  line : Nat
  column : Nat
  position : Nat
  deriving DecidableEq, Repr

/-- The place that a number of remaining characters marks in a text. -/
def Stop.place (stop : Stop) (s : List Char) : Malformed :=
  let position := s.length - stop.left
  let before := s.take position
  ⟨stop.refusal, before.count '\n' + 1, (before.reverse.takeWhile (· ≠ '\n')).length + 1, position⟩

def Malformed.text (m : Malformed) : String :=
  if m.refusal.isPlaced then
    m.refusal.text ++ ": line " ++ toString m.line ++ " column " ++ toString m.column ++
      " (char " ++ toString m.position ++ ")"
  else m.refusal.text

/-- The value that a text of characters denotes, or the place where reading it stopped. -/
def parse [Nesting] (s : String) : Except Malformed Json :=
  match readChars .ordinary (Text.chars s) with
  | .ok v => .ok v
  | .error stop => .error (stop.place (Text.chars s))

def parseStrict? (s : String) : Option Json :=
  match Codec.utf8.defect? s with
  | some _ => none
  | none => (readChars .strict (Text.chars s)).toOption

end LocatorHealing.Json
