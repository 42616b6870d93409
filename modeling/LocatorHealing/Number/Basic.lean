import LocatorHealing.Number.Shortest

set_option autoImplicit false
set_option relaxedAutoImplicit false

/-!
Numbers that are integers of any size or doubles, and remember which. An operation on two
integers stays exact; with a double it is done in doubles, and an integer too large for one is
refused. Comparisons are exact in every combination.
-/

namespace LocatorHealing

inductive Number where
  | int (n : Int)
  | real (x : Float)

namespace Number

instance : Inhabited Number := ⟨.int 0⟩

def text : Number → String
  | .int n => toString n
  | .real x => Shortest.ofFloat x

def isZero : Number → Bool
  | .int n => n == 0
  | .real x => x == 0.0

def toFloat? : Number → Option Float
  | .int n => Binary.ofInt? n
  | .real x => some x

def toInt? : Number → Option Int
  | .int n => some n
  | .real x => Binary.toInt? x

def same : Number → Number → Bool
  | .int a, .int b => a == b
  | .real x, .real y => x == y
  | .int a, .real y => Binary.compareInt? a y == some .eq
  | .real x, .int b => Binary.compareInt? b x == some .eq

def lt : Number → Number → Bool
  | .int a, .int b => a < b
  | .real x, .real y => x < y
  | .int a, .real y => Binary.compareInt? a y == some .lt
  | .real x, .int b => Binary.compareInt? b x == some .gt

def le : Number → Number → Bool
  | .int a, .int b => a ≤ b
  | .real x, .real y => x ≤ y
  | .int a, .real y => Binary.compareInt? a y == some .lt || Binary.compareInt? a y == some .eq
  | .real x, .int b => Binary.compareInt? b x == some .gt || Binary.compareInt? b x == some .eq

/-- Apply an operation to integers exactly, and to all else as doubles. -/
def lift₂ (onInt : Int → Int → Int) (onReal : Float → Float → Float) (a b : Number) :
    Option Number :=
  match a, b with
  | .int m, .int n => some (.int (onInt m n))
  | _, _ => do
    let x ← a.toFloat?
    let y ← b.toFloat?
    return .real (onReal x y)

def add (a b : Number) : Option Number := lift₂ (· + ·) (· + ·) a b

def sub (a b : Number) : Option Number := lift₂ (· - ·) (· - ·) a b

end Number

end LocatorHealing
