import LocatorHealing.Text.CaseTable

set_option autoImplicit false
set_option relaxedAutoImplicit false

/-!
Lower case and title case by the full Unicode mappings: the lower case of the dotted capital I is
two characters, and a capital sigma takes its final form at the end of a word. The other mappings
go character by character.
-/

namespace LocatorHealing.Text

/-- Lower case of one ASCII letter; other characters are unchanged. -/
def asciiLower (c : Char) : Char :=
  if 65 ≤ c.toNat ∧ c.toNat ≤ 90 then Char.ofNat (c.toNat + 32) else c

def lowerChar (c : Char) : List Char :=
  if c.toNat < 128 then [asciiLower c]
  else if c.toNat = 0x130 then ['i', Char.ofNat 0x307]
  else
    match CaseTable.lowerRuns.findSome? (·.mapped? c.toNat) with
    | some n => [Char.ofNat n]
    | none => [c]

def isCaseIgnorable (c : Char) : Bool :=
  CaseTable.inRanges CaseTable.ignorable c.toNat

def isCased (c : Char) : Bool :=
  c.toNat = 0x3A3 || CaseTable.inRanges CaseTable.cased c.toNat

def startsCased (s : List Char) : Bool :=
  match s.dropWhile isCaseIgnorable with
  | [] => false
  | c :: _ => isCased c

/-- Lower case of a text whose already read part is given backwards. -/
def lowerFrom (before : List Char) : List Char → List Char
  | [] => []
  | c :: s =>
    let image :=
      if c.toNat = 0x3A3 then
        if startsCased before && !startsCased s then [Char.ofNat 0x3C2]
        else [Char.ofNat 0x3C3]
      else lowerChar c
    image ++ lowerFrom (c :: before) s

def lower (s : String) : String :=
  String.ofList (lowerFrom [] s.toList)

/-- The capital of a character where that capital is a single ASCII letter: besides the letters
of ASCII themselves these are the dotless i and the long s. -/
def asciiCapital (c : Char) : Char :=
  if 97 ≤ c.toNat ∧ c.toNat ≤ 122 then Char.ofNat (c.toNat - 32)
  else if c.toNat = 0x131 then 'I'
  else if c.toNat = 0x17F then 'S'
  else c

def asciiCapitals (s : String) : String :=
  String.ofList (s.toList.map asciiCapital)

/-- Title case of one character: a capital, or for some characters several. -/
def titleChar (c : Char) : List Char :=
  if c.toNat < 128 then [asciiCapital c]
  else
    match CaseTable.titleSequences.lookup c.toNat with
    | some image => image.map Char.ofNat
    | none =>
      match CaseTable.titleRuns.findSome? (·.mapped? c.toNat) with
      | some n => [Char.ofNat n]
      | none => [c]

/-- First character in title case, the rest in lower case: how the name of a message header is
stored. -/
def capitalized (s : String) : String :=
  match s.toList with
  | [] => ""
  | c :: rest => String.ofList (titleChar c ++ lowerFrom [c] rest)

end LocatorHealing.Text
