import LocatorHealing.Json.Reader
import LocatorHealing.Text.Blank
import LocatorHealing.Text.Case
import LocatorHealing.Validation.Basic

set_option autoImplicit false
set_option relaxedAutoImplicit false

/-!
The scalar types of checked records, each with the other kinds of data it accepts: truth values
also as zero and one and as words, integers also as truth values, as doubles without a fraction
and as text, doubles also as any number, truth value or text.
-/

namespace LocatorHealing.Validation

def text : Json → Checked String
  | .str s => .valid s
  | _ => .fail .notText

/-- A text that is read as something else may hold no unpaired surrogates. -/
def unlessSurrogate {α : Type} (s : String) (checked : Checked α) : Checked α :=
  match Codec.utf8.defect? s with
  | some _ => .fail .surrogate
  | none => checked

def cutSign : List Char → Bool × List Char
  | '-' :: s => (true, s)
  | '+' :: s => (false, s)
  | s => (false, s)

/-- The integer of a text in its plain form: digits without a zero in front, perhaps after a minus
sign. -/
def plainInteger? (s : List Char) : Option Int :=
  let (negative, body) :=
    match s with
    | '-' :: body => (true, body)
    | body => (false, body)
  match Json.readWhole body with
  | some (digits, []) =>
    let n : Int := Json.digitsValue digits
    if Json.digitLimit < digits.length then none else some (if negative then -n else n)
  | _ => none

/-- A number without the zeros in front of it and the underscores among them; of zeros alone, its
last character is left. What does not start with a digit is no number. -/
def withoutZeros (s : List Char) : Option (List Char) :=
  match s with
  | '0' :: rest =>
    match rest.dropWhile fun c => c == '0' || c == '_' with
    | [] => some (s.drop (s.length - 1))
    | c :: more => some (c :: more)
  | c :: _ => if Json.isDigit c then some s else none
  | [] => none

def hasDoubledMark : List Char → Bool
  | '_' :: '_' :: _ => true
  | _ :: s => hasDoubledMark s
  | [] => false

/-- A text without its underscores, unless one stands at an end or beside another. -/
def withoutMarks? (s : List Char) : Option (List Char) :=
  if s.head? = some '_' ∨ s.getLast? = some '_' ∨ hasDoubledMark s then none
  else some (s.filter (· ≠ '_'))

/-- The integer that a text denotes: blanks around it, a sign, zeros in front, underscores between
digits and a fraction of zeros are allowed. The zeros in front may end in a minus sign. -/
def integerOfText? (s : String) : Option Int := do
  let (whole, fraction?) := Text.cutFirst '.' (Text.trimBy Text.isWhiteSpace s.toList)
  let fraction := fraction?.getD ['0']
  if fraction.isEmpty || fraction.any (· != '0') then none
  else
    let (negative, body) := cutSign whole
    let rest ← withoutZeros body
    plainInteger? (← withoutMarks? (if negative then '-' :: rest else rest))

/-- A text that starts, without a blank, a plus sign or a zero, with too many digits. -/
def startsOversized (s : List Char) : Bool :=
  Json.digitLimit < Json.wholeLength s

def integerLimit : Float := 9223372036854775808.0

def integerOfFloat (x : Float) : Checked Int :=
  if x.isNaN || x.isInf then .fail .notFinite
  else
    match Binary.toInt? x with
    | none => .fail .fractional
    | some n => if -integerLimit < x && x < integerLimit then .valid n else .fail .oversized

def integer : Json → Checked Int
  | .bool b => .valid (if b then 1 else 0)
  | .num (.int n) => .valid n
  | .num (.real x) => integerOfFloat x
  | .str s =>
    unlessSurrogate s <|
      if startsOversized s.toList then .fail .oversized
      else
        match integerOfText? s with
        | some n => .valid n
        | none => .fail .unreadableInteger
  | _ => .fail .notInteger

def trueWords : List String := ["1", "on", "t", "true", "y", "yes"]

def falseWords : List String := ["0", "off", "f", "false", "n", "no"]

def flagOfWord? (s : String) : Option Bool :=
  let word := String.ofList (s.toList.map Text.asciiLower)
  if trueWords.contains word then some true
  else if falseWords.contains word then some false
  else none

def flagOfInt? (n : Int) : Option Bool :=
  if n = 0 then some false else if n = 1 then some true else none

/-- A truth value, out of an integer. One beyond sixty-four bits is not taken for a truth value at
all. -/
def flagOfInt (n : Int) : Checked Bool :=
  if n < -Int.pow 2 63 ∨ Int.pow 2 63 ≤ n then .fail .notFlag
  else
    match flagOfInt? n with
    | some b => .valid b
    | none => .fail .unreadableFlag

def flag : Json → Checked Bool
  | .bool b => .valid b
  | .num (.int n) => flagOfInt n
  | .num (.real x) =>
    match integerOfFloat x with
    | .valid n => flagOfInt n
    | .invalid _ => .fail .notFlag
  | .str s =>
    unlessSurrogate s <|
      match flagOfWord? s with
      | some b => .valid b
      | none => .fail .unreadableFlag
  | _ => .fail .notFlag

/-- An unsigned decimal: digits with a point before, among or after them, and an exponent. -/
def decimalOfText? (negative : Bool) (s : List Char) : Option Float :=
  let whole := s.takeWhile Json.isDigit
  let afterWhole := s.dropWhile Json.isDigit
  let (fraction, afterFraction) :=
    match afterWhole with
    | '.' :: rest => (rest.takeWhile Json.isDigit, rest.dropWhile Json.isDigit)
    | rest => ([], rest)
  let (exponent?, rest) := Json.readExponent afterFraction
  if (whole.isEmpty && fraction.isEmpty) || !rest.isEmpty then none
  else
    some (Binary.ofDecimal negative (Json.digitsValue (whole ++ fraction))
      (exponent?.getD 0 - fraction.length))

/-- The double that a text without blanks denotes; the words for infinity and for no number may
be in letters of any case. -/
def plainFloat? (s : List Char) : Option Float :=
  let (negative, body) := cutSign s
  let word := String.ofList (body.map Text.asciiLower)
  if word = "inf" ∨ word = "infinity" then some (if negative then -1.0 / 0.0 else 1.0 / 0.0)
  else if word = "nan" then some (0.0 / 0.0)
  else decimalOfText? negative body

/-- The double that a text denotes: with blanks around it, or with single underscores inside. -/
def floatOfText? (s : String) : Option Float :=
  match plainFloat? (Text.trimBy Text.isWhiteSpace s.toList) with
  | some x => some x
  | none => (withoutMarks? s.toList).bind plainFloat?

def number : Json → Checked Number
  | .bool b => .valid (.real (if b then 1.0 else 0.0))
  | .num n =>
    match n.toFloat? with
    | some x => .valid (.real x)
    | none => .fail .notNumber
  | .str s =>
    unlessSurrogate s <|
      match floatOfText? s with
      | some x => .valid (.real x)
      | none => .fail .unreadableNumber
  | _ => .fail .notNumber

def texts : Json → Checked (List String)
  | .arr items => Checked.each text items
  | _ => .fail .notList

end LocatorHealing.Validation
