import ChartSpec.Decimal.Shortest

/-!
# Written decimals

How a double is spelled.  A style says which orders of magnitude are written positionally; the
others get an exponent with its sign.  Two styles are in use: `Decimal.documentStyle` for
numbers of a document, `Decimal.plainStyle` for numbers inside a message.
-/

namespace ChartSpec

namespace Decimal

/-- The decisions about the spelling of a number. -/
structure Style where
  /-- Orders of the first digit that are written positionally; all of them when absent. -/
  positional : Option (Int × Int)
  /-- Whether a positional whole number keeps one zero after its point. -/
  wholePoint : Bool

/-- Positional from 0.00001 up to sixteen digits before the point, and never without a point. -/
def documentStyle : Style := ⟨some (-5, 15), true⟩

/-- Always positional, and without a point where nothing follows it. -/
def plainStyle : Style := ⟨none, false⟩

def zeros (n : Nat) : String := String.ofList (List.replicate n '0')

/-- Digits with the point in its place. -/
def positionalText (wholePoint : Bool) (d : Decimal) : String :=
  let ds := (toString d.digits).toList
  if 0 ≤ d.exponent then
    String.ofList ds ++ zeros d.exponent.toNat ++ if wholePoint then ".0" else ""
  else
    let after := (-d.exponent).toNat
    if after < ds.length then
      String.ofList (ds.take (ds.length - after)) ++ "." ++
        String.ofList (ds.drop (ds.length - after))
    else "0." ++ zeros (after - ds.length) ++ String.ofList ds

/-- One digit, the point, the other digits, and the exponent with its sign. -/
def exponentText (order : Int) (d : Decimal) : String :=
  let ds := (toString d.digits).toList
  let fraction := if ds.length ≤ 1 then "" else "." ++ String.ofList (ds.drop 1)
  String.ofList (ds.take 1) ++ fraction ++ "e" ++ (if order < 0 then "-" else "+") ++
    toString order.natAbs

/-- A decimal in a style. -/
def write (style : Style) (d : Decimal) : String :=
  let order := d.exponent + ((toString d.digits).length : Int) - 1
  match style.positional with
  | none => positionalText style.wholePoint d
  | some (least, most) =>
    if least ≤ order ∧ order ≤ most then positionalText style.wholePoint d
    else exponentText order d

end Decimal

/-- A double in a style, in the fewest digits that read back. -/
def Binary64.write (style : Decimal.Style) (x : Binary64) : String :=
  (if x.negative then "-" else "") ++ (Decimal.shortest x).write style

end ChartSpec
