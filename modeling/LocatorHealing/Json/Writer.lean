import LocatorHealing.Json.Quoted

set_option autoImplicit false
set_option relaxedAutoImplicit false

/-!
Writing JSON in two formats: the spaced one keeps to ASCII, and the compact one, without blanks,
leaves every character from U+0020 on as it is. Members are written in their order.
-/

namespace LocatorHealing.Json

/-- What the two formats decide differently. -/
structure Format where
  betweenItems : List Char
  afterName : List Char
  asciiOnly : Bool

/-- Blanks after commas and colons, and escapes for everything beyond printed ASCII. -/
def Format.spaced : Format := ⟨[',', ' '], [':', ' '], true⟩

def Format.compact : Format := ⟨[','], [':'], false⟩

def unitEscape (n : Nat) : List Char :=
  '\\' :: 'u' :: Text.hex 4 n

/-- The escape of a character beyond the short ones: two code units where one is too small. -/
def longEscape (c : Char) : List Char :=
  let n := c.toNat
  if n < 0x10000 then unitEscape n
  else unitEscape (0xD800 + (n - 0x10000) / 0x400) ++ unitEscape (0xDC00 + (n - 0x10000) % 0x400)

def writeChar (f : Format) (c : Char) : List Char :=
  if c = '"' then ['\\', '"']
  else if c = '\\' then ['\\', '\\']
  else if c = '\n' then ['\\', 'n']
  else if c = '\r' then ['\\', 'r']
  else if c = '\t' then ['\\', 't']
  else if c.toNat = 8 then ['\\', 'b']
  else if c.toNat = 12 then ['\\', 'f']
  else if c.toNat < 32 then unitEscape c.toNat
  else if f.asciiOnly && 126 < c.toNat then longEscape c
  else [c]

/-- One code point inside a string. A half of a pair has no other form than its escape. -/
def writePoint (f : Format) : CodePoint → List Char
  | .char c => writeChar f c
  | .half k => unitEscape (CodePoint.half k).toNat

def writeString (f : Format) (s : String) : List Char :=
  '"' :: (Text.codes s).flatMap (writePoint f) ++ ['"']

/-- A number; the values that are no finite number have names of their own. -/
def writeNumber : Number → List Char
  | .int n => (toString n).toList
  | .real x =>
    if x.isNaN then "NaN".toList
    else if x.isInf then (if x < 0 then "-Infinity" else "Infinity").toList
    else (Shortest.ofFloat x).toList

mutual

def writeChars (f : Format) : Json → List Char
  | .null => ['n', 'u', 'l', 'l']
  | .bool true => ['t', 'r', 'u', 'e']
  | .bool false => ['f', 'a', 'l', 's', 'e']
  | .num n => writeNumber n
  | .str s => writeString f s
  | .arr items => '[' :: writeItems f items ++ [']']
  | .obj members => '{' :: writeMembers f members ++ ['}']

def writeItems (f : Format) : List Json → List Char
  | [] => []
  | [v] => writeChars f v
  | v :: rest => writeChars f v ++ f.betweenItems ++ writeItems f rest

def writeMembers (f : Format) : List (String × Json) → List Char
  | [] => []
  | [(k, v)] => writeString f k ++ f.afterName ++ writeChars f v
  | (k, v) :: rest =>
    writeString f k ++ f.afterName ++ writeChars f v ++ f.betweenItems ++ writeMembers f rest

end

def write (f : Format) (v : Json) : String :=
  Text.ofChars (writeChars f v)

end LocatorHealing.Json
