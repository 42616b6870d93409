set_option autoImplicit false
set_option relaxedAutoImplicit false

/-!
Double precision numbers as exact values: every finite one is an integer times a power of two,
and every ratio of natural numbers has a nearest one, ties going to the even mantissa.
-/

namespace LocatorHealing.Binary

/-- What a double stands for. A finite one is `mantissa * 2 ^ exponent`, negated if so marked. -/
inductive View where
  | finite (negative : Bool) (mantissa : Nat) (exponent : Int)
  | infinite (negative : Bool)
  | notANumber
  deriving DecidableEq, Repr

def viewBits (bits : Nat) : View :=
  let negative := bits / Nat.pow 2 63 % 2 == 1
  let exponent : Nat := bits / Nat.pow 2 52 % 2048
  let fraction : Nat := bits % Nat.pow 2 52
  if exponent = 2047 then
    if fraction = 0 then .infinite negative else .notANumber
  else if exponent = 0 then .finite negative fraction (-1074)
  else .finite negative (fraction + Nat.pow 2 52) ((exponent : Int) - 1075)

def view (x : Float) : View :=
  viewBits x.toBits.toNat

/-- `mantissa * 2 ^ exponent` as a numerator over a denominator. -/
def ratio (mantissa : Nat) (exponent : Int) : Nat × Nat :=
  if 0 ≤ exponent then (mantissa * Nat.pow 2 exponent.toNat, 1)
  else (mantissa, Nat.pow 2 (-exponent).toNat)

/-- The integer nearest to a ratio; a half goes to the even neighbour. -/
def roundHalfEven (num den : Nat) : Nat :=
  let q := num / den
  let r := num % den
  if 2 * r < den then q
  else if den < 2 * r then q + 1
  else q + q % 2

/-- The bits of the non-negative double nearest to a ratio; beyond the largest one, of infinity. -/
def bitsOfRatio (num den : Nat) : Nat :=
  if num = 0 then 0
  else
    let scaled (q : Int) : Nat × Nat :=
      if 0 ≤ q then (num, den * Nat.pow 2 q.toNat) else (num * Nat.pow 2 (-q).toNat, den)
    let q₀ : Int := (num.log2 : Int) - den.log2 - 53
    let q₁ := if Nat.pow 2 53 ≤ (scaled q₀).1 / (scaled q₀).2 then q₀ + 1 else q₀
    let q := max q₁ (-1074)
    let m := roundHalfEven (scaled q).1 (scaled q).2
    let m' := if m = Nat.pow 2 53 then Nat.pow 2 52 else m
    let q' := if m = Nat.pow 2 53 then q + 1 else q
    if 971 < q' then 2047 * Nat.pow 2 52
    else if m' < Nat.pow 2 52 then m'
    else (q' + 1075).toNat * Nat.pow 2 52 + (m' - Nat.pow 2 52)

def ofRatio (negative : Bool) (num den : Nat) : Float :=
  Float.ofBits (UInt64.ofNat (bitsOfRatio num den + if negative then Nat.pow 2 63 else 0))

/-- The double nearest to `digits * 10 ^ exponent`. Exponents far outside the range of doubles
are settled without computing the power. -/
def ofDecimal (negative : Bool) (digits : Nat) (exponent : Int) : Float :=
  if digits = 0 then ofRatio negative 0 1
  else
    let magnitude : Int := (digits.log2 : Int) * 3 / 10 + exponent
    if 400 < magnitude then ofRatio negative (Nat.pow 2 1100) 1
    else if magnitude < -400 then ofRatio negative 0 1
    else if 0 ≤ exponent then ofRatio negative (digits * Nat.pow 10 exponent.toNat) 1
    else ofRatio negative digits (Nat.pow 10 (-exponent).toNat)

def ofInt? (n : Int) : Option Float :=
  let x := ofRatio (n < 0) n.natAbs 1
  if x.isFinite then some x else none

def toInt? (x : Float) : Option Int :=
  match view x with
  | .finite negative mantissa exponent =>
    let r := ratio mantissa exponent
    if r.1 % r.2 = 0 then
      some (if negative then -((r.1 / r.2 : Nat) : Int) else ((r.1 / r.2 : Nat) : Int))
    else none
  | _ => none

/-- Exact comparison of an integer with a double; nothing compares with what is no number. -/
def compareInt? (n : Int) (x : Float) : Option Ordering :=
  match view x with
  | .notANumber => none
  | .infinite negative => some (if negative then .gt else .lt)
  | .finite negative mantissa exponent =>
    let r := ratio mantissa exponent
    let value : Int := if negative then -(r.1 : Int) else r.1
    some (compare (n * r.2) value)

end LocatorHealing.Binary
