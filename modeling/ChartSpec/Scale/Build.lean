import ChartSpec.Draft
import ChartSpec.Field.Reference
import ChartSpec.Registry
import ChartSpec.Text.Blank

/-!
# Building scales

A domain or range is given as a reference like `table.x`, as a data set, as a list of values or
as a literal; a range also as a keyword.  References are resolved against the registry.
-/

namespace ChartSpec

inductive ScaleInput where
  | reference (token : String)
  | data (name : String)
  | values (vs : List Json)
  | literal (v : Json)

inductive ScaleCall where
  | domain (input : ScaleInput)
  | domainBounded (input low high : ScaleInput)
  | domainBounds (low high : Option ScaleInput)
  | domainFields (references : List String)
  | range (input : ScaleInput)
  | rangeKeyword (k : RangeKeyword)
  | rangeMin (input : ScaleInput)
  | rangeMax (input : ScaleInput)
  | reverse
  | round
  | points
  | padding (x : Binary64)
  | sort
  | clamp
  | nice (n : Nice)
  | exponent (x : Binary64)
  | zero (on : Bool)

namespace Registry

/-- The data set and the field that a reference means.  The field is the position when none is
named, and always for plain values. -/
def resolveReference (r : Registry) (token : String) : Except Error (String × String) := do
  let parsed := FieldReference.parseQualified token
  let d ← r.expectData (parsed.source.getD token)
  let field :=
    if parsed.field.isNone || d.isFlat then "index" else parsed.resolve d.fields
  return (d.name, field)

/-- The reference as one field of a data set. -/
def resolveDataRef (r : Registry) (token : String) : Except Error DataRef :=
  (r.resolveReference token).map fun (data, field) => ⟨data, .one field⟩

/-- A domain, bound, or range that is no keyword. -/
def resolveDomain (r : Registry) : ScaleInput → Except Error ScaleValue
  | .reference token => (r.resolveDataRef token).map .ref
  | .data name => (r.expectData name).map fun _ => .ref ⟨name, .one "index"⟩
  | .values vs => .ok (.values vs)
  | .literal v => .ok (.literal v)

/-- A range.  Keywords come before data sets of the same name; a text without a point that is
neither is refused. -/
def resolveRange (r : Registry) : ScaleInput → Except Error ScaleValue
  | .reference token =>
    match RangeKeyword.ofName? token with
    | some k => .ok (.literal (.str k.literal))
    | none =>
      if '.' ∈ token.toList ∨ (r.findData? token).isSome then (r.resolveDataRef token).map .ref
      else .error (.refused (.unknownName .rangeLiteral token))
  | input => r.resolveDomain input

/-- A domain over several fields of one data set, each from a reference that means one field. -/
def resolveFields (r : Registry) (tokens : List String) : Except Error DataRef := do
  let refs ← tokens.mapM r.resolveDataRef
  match (refs.map DataRef.data).eraseDups with
  | [data] => return ⟨data, .many (refs.filterMap fun ref => ref.field.one?)⟩
  | several => .error (.refused (.domainOfSeveral several))

end Registry

namespace Scale

/-- Refuses a property that scales of this type do not have. -/
def require (s : Scale) (property : String) (allowed : Bool) : Except Error Unit :=
  if allowed then .ok () else .error (.refused (.scaleProperty property s.type s.name))

def setDomain (r : Registry) (s : Scale) (input : ScaleInput) : Except Error Scale := do
  let v ← inPlace (.domainOf s.name) (r.resolveDomain input)
  return { s with domain := some v }

/-- Sets both bounds or none; one alone is refused. -/
def setBounds (r : Registry) (s : Scale) :
    Option ScaleInput → Option ScaleInput → Except Error Scale
  | some low, some high => do
    let low ← r.resolveDomain low
    let high ← r.resolveDomain high
    return { s with domainMin := some low, domainMax := some high }
  | none, none => .ok s
  | _, _ => .error (.refused (.halfBounds s.name))

def apply (r : Registry) (s : Scale) : ScaleCall → Except Error Scale
  | .domain input => s.setDomain r input
  | .domainBounded input low high => do
    let s ← s.setDomain r input
    s.setBounds r (some low) (some high)
  | .domainBounds low high => s.setBounds r low high
  | .domainFields references => do
    return { s with domain := some (.ref (← r.resolveFields references)) }
  | .range input => do
    let v ← inPlace (.rangeOf s.name) (r.resolveRange input)
    return { s with range := some v }
  | .rangeKeyword k => .ok { s with range := some (.literal (.str k.literal)) }
  | .rangeMin input => do return { s with rangeMin := some (← r.resolveDomain input) }
  | .rangeMax input => do return { s with rangeMax := some (← r.resolveDomain input) }
  | .reverse => .ok { s with reverse := true }
  | .round => .ok { s with round := true }
  | .points => do
    s.require "points" s.type.isOrdinal
    return { s with points := true }
  | .padding x => do
    s.require "padding" s.type.isOrdinal
    return { s with padding := some x }
  | .sort => do
    s.require "sort" s.type.isOrdinal
    return { s with sort := true }
  | .clamp => do
    s.require "clamp" (s.type.isQuantitative || s.type.isTime)
    return { s with clamp := true }
  | .nice (.interval every) => do
    s.require "nice interval" s.type.isTime
    return { s with nice := some (.interval every) }
  | .nice (.enabled on) => do
    s.require "nice" s.type.isQuantitative
    return { s with nice := some (.enabled on) }
  | .exponent x => do
    s.require "exponent" s.type.hasExponent
    return { s with exponent := some x }
  | .zero on => do
    s.require "zero" s.type.isQuantitative
    return { s with zero := some on }

end Scale

namespace Registry

/-- Registers a scale whose name is not blank. -/
def addScale (r : Registry) (s : Scale) : Except Error (Registry × Scale) :=
  if Text.isBlank s.name then .error (.refused (.blankName "Scale"))
  else do return (← r.registerScale s, s)

/-- Builds and registers a scale. -/
def buildScale (r : Registry) (name : String) (type : ScaleType) (calls : List ScaleCall) :
    Except Failure (Registry × Scale) := do
  let draft ← applyAll (Scale.apply r) { name, type } calls
  finishing calls r.addScale draft

end Registry

end ChartSpec
