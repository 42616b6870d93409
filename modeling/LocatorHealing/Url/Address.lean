import LocatorHealing.Text.Blank

set_option autoImplicit false
set_option relaxedAutoImplicit false

/-!
Addresses in a network location: dotted quads, and the bracketed literals of IPv6 (with a zone)
and of later versions.
-/

namespace LocatorHealing.Url

def isHexDigit (c : Char) : Bool :=
  let n := c.toNat
  (48 ≤ n && n ≤ 57) || (65 ≤ n && n ≤ 70) || (97 ≤ n && n ≤ 102)

/-- A number from 0 to 255 in at most three digits, without a leading zero. -/
def isOctet (s : List Char) : Bool :=
  !s.isEmpty && s.length ≤ 3 && s.all (fun c => 48 ≤ c.toNat && c.toNat ≤ 57) &&
    (s == ['0'] || s.head? != some '0') &&
    s.foldl (fun n c => 10 * n + (c.toNat - 48)) 0 ≤ 255

def isQuad (s : List Char) : Bool :=
  let parts := Text.splitAt '.' s
  parts.length == 4 && parts.all isOctet

def isGroup (s : List Char) : Bool :=
  !s.isEmpty && s.length ≤ 4 && s.all isHexDigit

/-- The pieces between colons form an address of eight groups, one run of which may be left
out: then one inner piece is empty, together with the first or last piece if it stands there. -/
def areGroups (parts : List (List Char)) : Bool :=
  let inner := (parts.drop 1).dropLast
  match inner.findIdx? (·.isEmpty) with
  | none => parts.length == 8 && parts.all isGroup
  | some i =>
    let high := parts.take (i + 1)
    let low := parts.drop (i + 2)
    let high := if high == [[]] then [] else high
    let low := if low == [[]] then [] else low
    high.all isGroup && low.all isGroup && high.length + low.length ≤ 7

/-- Eight groups, the last two of which may be written as a dotted quad. -/
def isV6Address (s : List Char) : Bool :=
  let parts := Text.splitAt ':' s
  match parts.getLast? with
  | none => false
  | some last =>
    if parts.length < 3 then false
    else if last.contains '.' then
      isQuad last && areGroups (parts.dropLast ++ [['0'], ['0']])
    else areGroups parts

/-- An address with a zone after a percent sign, or without one. -/
def isV6Literal (s : List Char) : Bool :=
  match Text.cutFirst '%' s with
  | (address, none) => isV6Address address
  | (address, some zone) => !zone.isEmpty && !zone.contains '%' && isV6Address address

/-- The letter v, a hexadecimal version, a point, and at least one more character. -/
def isFutureLiteral (s : List Char) : Bool :=
  match s with
  | 'v' :: rest =>
    let version := rest.takeWhile isHexDigit
    match rest.dropWhile isHexDigit with
    | '.' :: tail => !version.isEmpty && !tail.isEmpty
    | _ => false
  | _ => false

end LocatorHealing.Url
