import LocatorHealing.Json.Basic
import LocatorHealing.Text.Printable
import LocatorHealing.Text.Codec

set_option autoImplicit false
set_option relaxedAutoImplicit false

/-!
Values as they stand in messages: a text on its own appears as it is, while a text inside a list
or an object is quoted, with escapes for whatever has no printed form.
-/

namespace LocatorHealing.Text

/-- The lower-case hexadecimal digit for a number below sixteen. -/
def hexDigit (n : Nat) : Char :=
  if n < 10 then Char.ofNat (48 + n) else Char.ofNat (87 + n)

def hex : (width : Nat) → Nat → List Char
  | 0, _ => []
  | width + 1, n => hex width (n / 16) ++ [hexDigit (n % 16)]

def escapeUnprinted (n : Nat) : List Char :=
  if n < 0x100 then '\\' :: 'x' :: hex 2 n
  else if n < 0x10000 then '\\' :: 'u' :: hex 4 n
  else '\\' :: 'U' :: hex 8 n

def quotePoint (quote : Char) : CodePoint → List Char
  | .half k => escapeUnprinted (CodePoint.half k).toNat
  | .char c =>
    if c = quote ∨ c = '\\' then ['\\', c]
    else if c = '\n' then ['\\', 'n']
    else if c = '\r' then ['\\', 'r']
    else if c = '\t' then ['\\', 't']
    else if isPrintable c then [c]
    else escapeUnprinted c.toNat

/-- A text between single quotes, or between double quotes if it holds single ones only. -/
def quoted (s : String) : String :=
  let points := codes s
  let holds (c : Char) : Bool := points.contains (.char c)
  let quote := if holds '\'' && !holds '"' then '"' else '\''
  ofChars (quote :: points.flatMap (quotePoint quote) ++ [quote])

/-- Octets between quotes, those that are printed characters of ASCII as such. -/
def quotedOctets (octets : List UInt8) : String :=
  let chars := octets.map fun b => Char.ofNat b.toNat
  let quote := if chars.contains '\'' && !chars.contains '"' then '"' else '\''
  let point (c : Char) : List Char :=
    if c.toNat < 0x7F then quotePoint quote (.char c) else escapeUnprinted c.toNat
  String.ofList ('b' :: quote :: chars.flatMap point ++ [quote])

end LocatorHealing.Text

namespace LocatorHealing.Json

mutual

def inner : Json → String
  | .null => "None"
  | .bool b => if b then "True" else "False"
  | .num n => n.text
  | .str s => Text.quoted s
  | .arr items => "[" ++ innerItems items ++ "]"
  | .obj members => "\x7b" ++ innerMembers members ++ "\x7d"

def innerItems : List Json → String
  | [] => ""
  | [v] => inner v
  | v :: rest => inner v ++ ", " ++ innerItems rest

def innerMembers : List (String × Json) → String
  | [] => ""
  | [(k, v)] => Text.quoted k ++ ": " ++ inner v
  | (k, v) :: rest => Text.quoted k ++ ": " ++ inner v ++ ", " ++ innerMembers rest

end

def display : Json → String
  | .str s => s
  | v => inner v

end LocatorHealing.Json
