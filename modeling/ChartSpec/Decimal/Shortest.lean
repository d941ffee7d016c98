import ChartSpec.Binary64

/-!
# Shortest decimals

The decimal that stands for a double in text is one of the few-digit numbers that read back as
this double.  `shortest` looks for the coarsest power of ten with a multiple inside the interval
of numbers that round to the double, and of two such multiples takes the nearer one, at a tie
the even one.
-/

namespace ChartSpec

/-- The number `digits * 10 ^ exponent`. -/
structure Decimal where
  digits : Nat
  exponent : Int
  deriving DecidableEq

/-- The numbers that round to a double, all three over one denominator.  The ends belong to the
interval when the double's significand is even. -/
structure RoundingInterval where
  low : Nat
  middle : Nat
  high : Nat
  unit : Nat
  closed : Bool

namespace RoundingInterval

/-- The ends lie half way to the neighbours.  Below a power of two the neighbours are twice as
near, except at the least normal number, whose neighbours are all equally far. -/
def ofBinary64 (x : Binary64) : RoundingInterval :=
  let m := 4 * x.significand
  let power := x.magnitude % Binary64.fractions = 0 ∧ Binary64.fractions < x.magnitude
  let below := if power then 1 else 2
  let e := x.exponent - 2
  let scale := Nat.pow 2 e.toNat
  { low := (m - below) * scale
    middle := m * scale
    high := (m + 2) * scale
    unit := Nat.pow 2 (-e).toNat
    closed := x.significand % 2 == 0 }

/-- Whether a point, given over the same denominator, lies in the interval. -/
def contains (i : RoundingInterval) (point : Nat) : Bool :=
  if i.closed then decide (i.low ≤ point ∧ point ≤ i.high)
  else decide (i.low < point ∧ point < i.high)

/-- The same interval with all numbers divided by a power of ten. -/
def scale (i : RoundingInterval) (exponent : Int) : RoundingInterval :=
  let up := Nat.pow 10 (-exponent).toNat
  { i with
    low := i.low * up
    middle := i.middle * up
    high := i.high * up
    unit := i.unit * Nat.pow 10 exponent.toNat }

/-- The multiple of a power of ten in the interval that is nearest to the middle. -/
def multiple? (interval : RoundingInterval) (exponent : Int) : Option Nat :=
  let i := interval.scale exponent
  let down := i.middle / i.unit
  let below := i.middle - down * i.unit
  let above := (down + 1) * i.unit - i.middle
  match i.contains (down * i.unit), i.contains ((down + 1) * i.unit) with
  | false, false => none
  | true, false => some down
  | false, true => some (down + 1)
  | true, true =>
    if below < above ∨ (below = above ∧ down % 2 = 0) then some down else some (down + 1)

/-- The coarsest power of ten with a multiple in the interval, from a given one downwards. -/
def coarsest (i : RoundingInterval) : Nat → Int → Decimal
  | 0, exponent => ⟨(i.scale exponent).middle / (i.scale exponent).unit, exponent⟩
  | fuel + 1, exponent =>
    match i.multiple? exponent with
    | some digits => ⟨digits, exponent⟩
    | none => coarsest i fuel (exponent - 1)

end RoundingInterval

/-- The fewest digits that read back as the magnitude of a double.  The search starts above the
double's first digit, and seventeen digits are always enough. -/
def Decimal.shortest (x : Binary64) : Decimal :=
  if x.magnitude = 0 then ⟨0, 0⟩
  else
    let order := (x.exponent + x.significand.log2) * 30103 / 100000
    (RoundingInterval.ofBinary64 x).coarsest 24 (order + 2)

end ChartSpec
