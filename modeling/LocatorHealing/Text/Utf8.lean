import LocatorHealing.Text.Code

set_option autoImplicit false
set_option relaxedAutoImplicit false

/-!
UTF-8: encoding characters, and reading octets strictly (the first fault is reported with the
octets it covers) or with every fault replaced by U+FFFD. A faulty stretch is the longest run of
octets that could have begun a character, or one octet that begins none.
-/

namespace LocatorHealing.Utf8

def encodeChar (c : Char) : List UInt8 :=
  let n := c.toNat
  if n < 0x80 then [n.toUInt8]
  else if n < 0x800 then [(0xC0 + n / 0x40).toUInt8, (0x80 + n % 0x40).toUInt8]
  else if n < 0x10000 then
    [(0xE0 + n / 0x1000).toUInt8, (0x80 + n / 0x40 % 0x40).toUInt8, (0x80 + n % 0x40).toUInt8]
  else
    [(0xF0 + n / 0x40000).toUInt8, (0x80 + n / 0x1000 % 0x40).toUInt8,
      (0x80 + n / 0x40 % 0x40).toUInt8, (0x80 + n % 0x40).toUInt8]

def encode (s : List Char) : List UInt8 :=
  s.flatMap encodeChar

def octets (s : String) : List UInt8 :=
  encode (Text.chars s)

/-- Why a stretch of octets is no character. -/
inductive Reason where
  | startByte
  | continuationByte
  | endOfData
  deriving DecidableEq, Repr

def Reason.text : Reason → String
  | .startByte => "invalid start byte"
  | .continuationByte => "invalid continuation byte"
  | .endOfData => "unexpected end of data"

/-- A faulty stretch: where it starts, its octets (at least one), and why it is refused. -/
structure Defect where
  start : Nat
  first : UInt8
  extra : Nat
  reason : Reason
  deriving DecidableEq, Repr

/-- What the first octet of a character promises: how many octets follow, its payload, and the
range that the next octet must lie in. -/
def lead? (b : UInt8) : Option (Nat × Nat × Nat × Nat) :=
  let n := b.toNat
  if n < 0x80 then some (0, n, 0, 0)
  else if n < 0xC2 then none
  else if n < 0xE0 then some (1, n - 0xC0, 0x80, 0xBF)
  else if n = 0xE0 then some (2, 0, 0xA0, 0xBF)
  else if n = 0xED then some (2, 0xD, 0x80, 0x9F)
  else if n < 0xF0 then some (2, n - 0xE0, 0x80, 0xBF)
  else if n = 0xF0 then some (3, 0, 0x90, 0xBF)
  else if n < 0xF4 then some (3, n - 0xF0, 0x80, 0xBF)
  else if n = 0xF4 then some (3, 4, 0x80, 0x8F)
  else none

/-- Read the octets that a first octet promised: the character, or how many of them were good
and why the next one is not, and the octets left. -/
def continuation : (owed : Nat) → (value low high good : Nat) → List UInt8 →
    Except (Nat × Reason) Char × List UInt8
  | 0, value, _, _, _, s => (.ok (Char.ofNat value), s)
  | _ + 1, _, _, _, good, [] => (.error (good, .endOfData), [])
  | owed + 1, value, low, high, good, b :: s =>
    if low ≤ b.toNat ∧ b.toNat ≤ high then
      continuation owed (value * 0x40 + b.toNat % 0x40) 0x80 0xBF (good + 1) s
    else (.error (good, .continuationByte), b :: s)

/-- Read one character, or one faulty stretch, off a non-empty list of octets. -/
def step (b : UInt8) (s : List UInt8) : Except (Nat × Reason) Char × List UInt8 :=
  match lead? b with
  | none => (.error (0, .startByte), s)
  | some (owed, value, low, high) => continuation owed value low high 0 s

/-- Read all octets; the position of the next one is given. The text read so far is kept
backwards. -/
def decodeFrom (fuel position : Nat) (read : List Char) : List UInt8 → Except Defect (List Char)
  | [] => .ok read.reverse
  | b :: s =>
    match fuel with
    | 0 => .ok read.reverse
    | fuel + 1 =>
      match step b s with
      | (.ok c, rest) => decodeFrom fuel (position + 1 + (s.length - rest.length)) (c :: read) rest
      | (.error (extra, reason), _) => .error ⟨position, b, extra, reason⟩

/-- The characters that octets stand for, or the first stretch that stands for none. -/
def decode (s : List UInt8) : Except Defect (List Char) :=
  decodeFrom s.length 0 [] s

/-- Read all octets, each faulty stretch as one replacement character. -/
def decodeLossyFrom (fuel : Nat) (read : List Char) : List UInt8 → List Char
  | [] => read.reverse
  | b :: s =>
    match fuel with
    | 0 => read.reverse
    | fuel + 1 =>
      match step b s with
      | (.ok c, rest) => decodeLossyFrom fuel (c :: read) rest
      | (.error _, rest) => decodeLossyFrom fuel (Char.ofNat 0xFFFD :: read) rest

/-- The characters that octets stand for, with U+FFFD for each faulty stretch. -/
def decodeLossy (s : List UInt8) : List Char :=
  decodeLossyFrom s.length [] s

end LocatorHealing.Utf8
