/-!
# Sets of code points

A property of characters is a table of code points.  Tables list ranges, or runs with a stride,
in ascending order and without overlap, so a search stops at the first range that begins behind
the code point.
-/

namespace ChartSpec

namespace CodePoints

/-- Whether a code point lies in a list of ascending ranges, ends included. -/
def inRanges (n : Nat) : List (Nat × Nat) → Bool
  | [] => false
  | (first, last) :: rest => if n < first then false else decide (n ≤ last) || inRanges n rest

/-- Every `step`-th code point from `first` to `last`. -/
structure Run where
  first : Nat
  last : Nat
  step : Nat

/-- Whether a code point belongs to a run. -/
def Run.contains (r : Run) (n : Nat) : Bool :=
  decide (r.first ≤ n ∧ n ≤ r.last) && (n - r.first) % r.step == 0

/-- Whether a code point belongs to one of several runs. -/
def inRuns (n : Nat) (runs : List Run) : Bool :=
  runs.any fun r => r.contains n

/-- A run whose code points all map to the code points a fixed distance further. -/
structure Shift extends Run where
  distance : Int

/-- Where a code point goes: by the first shift whose run holds it, else nowhere. -/
def shifted (n : Nat) (shifts : List Shift) : Nat :=
  match shifts.find? fun s => s.contains n with
  | some s => (n + s.distance).toNat
  | none => n

end CodePoints

end ChartSpec
