import LocatorHealing.Number.Binary

set_option autoImplicit false
set_option relaxedAutoImplicit false

/-!
The fewest decimal digits that read back as a given double. The reals that round to the double
form an interval; on the grids of one, two, … seventeen digits the two neighbours of the value
are tried, the first grid with one of them inside the interval wins, and of two the nearer is
taken, an exact tie going to the even digit.
-/

namespace LocatorHealing.Shortest

/-- The number of decimal digits of a natural number, none for zero. -/
def digitCountFrom : (fuel : Nat) → Nat → Nat
  | 0, _ => 0
  | fuel + 1, n => if n = 0 then 0 else digitCountFrom fuel (n / 10) + 1

def digitCount (n : Nat) : Nat :=
  digitCountFrom (n.log2 + 1) n

/-- How often a ratio below one has to be multiplied by ten to reach one. -/
def leadingZeros : (fuel : Nat) → (num den : Nat) → Nat
  | 0, _, _ => 0
  | fuel + 1, num, den => if den ≤ num then 0 else leadingZeros fuel (num * 10) den + 1

/-- The exponent `k` with `10 ^ k ≤ num / den < 10 ^ (k + 1)`, for a positive ratio. -/
def exponent10 (num den : Nat) : Int :=
  if den ≤ num then (digitCount (num / den) : Int) - 1
  else -(leadingZeros 400 num den : Int)

/-- A number in units of `10 ^ exponent`. -/
structure Decimal where
  digits : Nat
  exponent : Int
  deriving DecidableEq, Repr

def inUnits (num den : Nat) (e : Int) : Nat × Nat :=
  if 0 ≤ e then (num, den * Nat.pow 10 e.toNat) else (num * Nat.pow 10 (-e).toNat, den)

/-- The grid point of the grid `10 ^ e` that is chosen for a value inside its interval, all three
given as multiples of one ratio `num / den`. -/
def onGrid? (num den value low high : Nat) (closed : Bool) (e : Int) : Option Nat :=
  let unit := inUnits num den e
  let below := value * unit.1 / unit.2
  let inside (c : Nat) : Bool :=
    if closed then low * unit.1 ≤ c * unit.2 && c * unit.2 ≤ high * unit.1
    else low * unit.1 < c * unit.2 && c * unit.2 < high * unit.1
  let distBelow := value * unit.1 - below * unit.2
  let distAbove := (below + 1) * unit.2 - value * unit.1
  match inside below, inside (below + 1) with
  | false, false => none
  | true, false => some below
  | false, true => some (below + 1)
  | true, true =>
    if distBelow < distAbove then some below
    else if distAbove < distBelow then some (below + 1)
    else some (below + below % 2)

def search (num den value low high : Nat) (closed : Bool) (k : Int) : (fuel digits : Nat) → Decimal
  | 0, digits => ⟨0, digits⟩
  | fuel + 1, digits =>
    let e := k - (digits : Int) + 1
    match onGrid? num den value low high closed e with
    | some c => ⟨c, e⟩
    | none => search num den value low high closed k fuel (digits + 1)

/-- The shortest decimal of `mantissa * 2 ^ exponent`, a positive double. The interval is given
in quarters of the unit of the mantissa; below a power of two it is half as long. -/
def ofParts (mantissa : Nat) (exponent : Int) : Decimal :=
  let quarter := Binary.ratio 1 (exponent - 2)
  let value := 4 * mantissa
  let low := if mantissa = Nat.pow 2 52 ∧ -1074 < exponent then value - 1 else value - 2
  let k := exponent10 (value * quarter.1) quarter.2
  search quarter.1 quarter.2 value low (value + 2) (mantissa % 2 = 0) k 17 1

def stripZeros : (fuel : Nat) → Decimal → Decimal
  | 0, d => d
  | fuel + 1, d =>
    if d.digits ≠ 0 ∧ d.digits % 10 = 0 then stripZeros fuel ⟨d.digits / 10, d.exponent + 1⟩ else d

/-- The text of a positive decimal: positional from `10 ^ -4` up to below `10 ^ 16`, always with
a fractional part, and otherwise with a signed exponent of at least two digits. -/
def text (d : Decimal) : String :=
  let s := (toString d.digits).toList
  let n := s.length
  let point : Int := d.exponent + n
  let body :=
    if -4 < point ∧ point ≤ 16 then
      if point ≤ 0 then '0' :: '.' :: (List.replicate (-point).toNat '0' ++ s)
      else if point < n then s.take point.toNat ++ '.' :: s.drop point.toNat
      else s ++ List.replicate (point.toNat - n) '0' ++ ['.', '0']
    else
      let x := point - 1
      let magnitude := (toString x.natAbs).toList
      let mark := if x < 0 then '-' else '+'
      let padded := if magnitude.length < 2 then '0' :: magnitude else magnitude
      let lead := if n ≤ 1 then s else s.take 1 ++ '.' :: s.drop 1
      lead ++ 'e' :: mark :: padded
  String.ofList body

def ofFloat (x : Float) : String :=
  match Binary.view x with
  | .notANumber => "nan"
  | .infinite negative => if negative then "-inf" else "inf"
  | .finite negative mantissa exponent =>
    let magnitude :=
      if mantissa = 0 then "0.0" else text (stripZeros 20 (ofParts mantissa exponent))
    if negative then "-" ++ magnitude else magnitude

end LocatorHealing.Shortest
