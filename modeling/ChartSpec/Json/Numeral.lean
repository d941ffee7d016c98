import ChartSpec.Json.Basic

/-!
# Numerals

A numeral is an optional minus sign, digits without a needless leading zero, an optional
fraction and an optional exponent.  Without fraction and exponent it is an integer when it fits
into 64 bits, with or without a sign; minus zero is a double.

A double is read in two steps.  The digits are gathered into a significand of at most 64 bits,
and those that no longer fit are dropped.  The significand is rounded to a double and then
multiplied or divided, once, by the power of ten, and the result is rounded again.
-/

namespace ChartSpec

/-- A numeral taken apart. -/
structure Numeral where
  negative : Bool
  whole : List Char
  fraction : Option (List Char)
  exponent : Option Int

namespace Numeral

def digitValue (c : Char) : Nat := c.toNat - '0'.toNat

/-- The digits at the front, and the rest. -/
def spanDigits (s : List Char) : List Char × List Char :=
  (s.takeWhile Char.isDigit, s.dropWhile Char.isDigit)

def natOfDigits (ds : List Char) : Nat :=
  ds.foldl (fun n c => 10 * n + digitValue c) 0

/-- The whole part: one zero, or digits that do not begin with zero. -/
def wholePart? (ds : List Char) : Option (List Char) :=
  match ds with
  | [] => none
  | ['0'] => some ds
  | '0' :: _ => none
  | _ => some ds

/-- The fraction, when a point begins it; nothing stands for a point without digits. -/
def fractionPart? : List Char → Option (Option (List Char) × List Char)
  | '.' :: s =>
    match spanDigits s with
    | ([], _) => none
    | (ds, rest) => some (some ds, rest)
  | s => some (none, s)

/-- The exponent, which must end the numeral. -/
def exponentPart? : List Char → Option (Option Int)
  | [] => some none
  | c :: s =>
    if c = 'e' ∨ c = 'E' then
      let (minus, digits) := match s with
        | '-' :: r => (true, r)
        | '+' :: r => (false, r)
        | r => (false, r)
      match spanDigits digits with
      | ([], _) => none
      | (ds, []) => some (some (if minus then -(natOfDigits ds : Int) else natOfDigits ds))
      | _ => none
    else none

/-- Takes a numeral apart; nothing for any other text. -/
def ofList? (s : List Char) : Option Numeral := do
  let (negative, s) := match s with
    | '-' :: r => (true, r)
    | r => (false, r)
  let (ds, rest) := spanDigits s
  let whole ← wholePart? ds
  let (fraction, rest) ← fractionPart? rest
  let exponent ← exponentPart? rest
  return { negative, whole, fraction, exponent }

/-- The leading digits of a significand that fit into 64 bits, and how many digits did not. -/
def gather : Nat → List Char → Nat × Nat
  | n, [] => (n, 0)
  | n, c :: rest =>
    let next := 10 * n + digitValue c
    if next < UInt64.size then gather next rest else (n, rest.length + 1)

/-- Significand and power of ten.  A dropped digit of the whole part raises the power, a gathered
digit of the fraction lowers it. -/
def scaled (m : Numeral) : Nat × Int :=
  let (n, dropped) := gather 0 m.whole
  let fraction := m.fraction.getD []
  let (n, left) := gather n fraction
  (n, dropped - (fraction.length - left : Nat) + m.exponent.getD 0)

/-- A double times a power of ten.  Powers past 308 are applied in steps of 308. -/
def timesPowerOfTen? (x : Binary64) : Nat → Int → Option Binary64
  | 0, _ => some x
  | fuel + 1, e =>
    if x.magnitude = 0 then some x
    else if 0 ≤ e then
      if e ≤ 308 then do x.mul? (← Binary64.ofQuotient? false (Nat.pow 10 e.toNat) 1) else none
    else if -308 ≤ e then do x.div? (← Binary64.ofQuotient? false (Nat.pow 10 (-e).toNat) 1)
    else do
      let y ← x.div? (← Binary64.ofQuotient? false (Nat.pow 10 308) 1)
      timesPowerOfTen? y fuel (e + 308)

/-- The double a numeral stands for; nothing when it is too large. -/
def double? (m : Numeral) : Option Binary64 :=
  let (n, e) := m.scaled
  (timesPowerOfTen? (Binary64.ofInt n) 4 e).map fun x => if m.negative then x.neg else x

/-- The number a numeral stands for; nothing when it is too large. -/
def value? (m : Numeral) : Option Json :=
  let n := natOfDigits m.whole
  if m.fraction.isSome ∨ m.exponent.isSome then m.double?.map Json.float
  else if m.negative then
    if 0 < n ∧ n ≤ 9223372036854775808 then some (Json.int (-n)) else m.double?.map Json.float
  else if n < UInt64.size then some (Json.int n)
  else m.double?.map Json.float

end Numeral

end ChartSpec
