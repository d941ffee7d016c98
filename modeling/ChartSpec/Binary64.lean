/-!
# Finite doubles

The fractional numbers of a chart document are finite double-precision numbers.  One is kept as
its sign and the other 63 bits: exponent field and fraction field together count the magnitudes
from zero upwards, so two finite doubles are equal exactly when the records are.

Everything is computed with natural numbers.  `ofQuotient?` rounds an exact quotient to the
nearest double, a tie going to the even one; the products and quotients that reading a numeral
needs are rounded the same way.
-/

namespace ChartSpec

/-- How many magnitudes share an exponent field. -/
def Binary64.fractions : Nat := Nat.pow 2 52

/-- The magnitude count at which the infinities begin. -/
def binary64Limit : Nat := 2047 * Binary64.fractions

/-- A finite double. -/
structure Binary64 where
  negative : Bool
  magnitude : Nat
  finite : magnitude < binary64Limit
  deriving DecidableEq

namespace Binary64

def zero (negative : Bool) : Binary64 := ⟨negative, 0, by decide⟩

def one : Binary64 := ⟨false, 1023 * fractions, by decide⟩

def largest (negative : Bool) : Binary64 := ⟨negative, binary64Limit - 1, by decide⟩

/-- The integer whose multiple by a power of two is the magnitude. -/
def significand (x : Binary64) : Nat :=
  if x.magnitude < fractions then x.magnitude else fractions + x.magnitude % fractions

/-- The power of two that multiplies the significand. -/
def exponent (x : Binary64) : Int :=
  if x.magnitude < fractions then -1074 else (x.magnitude / fractions : Nat) - 1075

/-- The magnitude as a fraction: its numerator. -/
def numerator (x : Binary64) : Nat := x.significand * Nat.pow 2 x.exponent.toNat

/-- The magnitude as a fraction: its denominator. -/
def denominator (x : Binary64) : Nat := Nat.pow 2 (-x.exponent).toNat

/-- The power of two that gives the quotient 53 binary digits, or the least one there is. -/
def quotientExponent (num den : Nat) : Int :=
  let guess := (num.log2 : Int) - den.log2
  let reached := num * Nat.pow 2 (-guess).toNat ≥ den * Nat.pow 2 guess.toNat
  max (-1074) (guess - if reached then 52 else 53)

/-- The quotient of two natural numbers, rounded; nothing when it rounds past the doubles. -/
def ofQuotient? (negative : Bool) (num den : Nat) : Option Binary64 :=
  if num = 0 then some (zero negative)
  else
    let e := quotientExponent num den
    let n := num * Nat.pow 2 (-e).toNat
    let d := den * Nat.pow 2 e.toNat
    let q := n / d
    let r := 2 * (n % d)
    let rounded := if d < r ∨ (d = r ∧ q % 2 = 1) then q + 1 else q
    let magnitude := (e + 1074).toNat * fractions + rounded
    if h : magnitude < binary64Limit then some ⟨negative, magnitude, h⟩ else none

/-- The nearest double to an integer; past the doubles it stays at the largest one. -/
def ofInt (n : Int) : Binary64 :=
  (ofQuotient? (decide (n < 0)) n.natAbs 1).getD (largest (decide (n < 0)))

def mul? (x y : Binary64) : Option Binary64 :=
  ofQuotient? (x.negative != y.negative) (x.numerator * y.numerator)
    (x.denominator * y.denominator)

def div? (x y : Binary64) : Option Binary64 :=
  ofQuotient? (x.negative != y.negative) (x.numerator * y.denominator)
    (x.denominator * y.numerator)

def neg (x : Binary64) : Binary64 := { x with negative := !x.negative }

/-- Whether the value lies between zero and one, both included; minus zero is zero. -/
def inUnitInterval (x : Binary64) : Bool :=
  x.magnitude == 0 || (!x.negative && decide (x.magnitude ≤ one.magnitude))

end Binary64

end ChartSpec
