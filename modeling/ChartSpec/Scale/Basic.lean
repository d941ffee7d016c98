import ChartSpec.Attribute
import ChartSpec.OneOrMany
import ChartSpec.Scale.Type

/-!
# Scales

A scale maps a domain to a range.  Domain, bounds and range are fields of a registered data set,
lists of values, or literals.
-/

namespace ChartSpec

/-- One field of a data set, or several. -/
structure DataRef where
  data : String
  field : OneOrMany String
  deriving DecidableEq

def DataRef.attributes (r : DataRef) : Attributes := [
  ("data", .text r.data),
  ("field", .value (match r.field with
    | .one f => .str f
    | .many fs => .arr (fs.map .str)))]

inductive ScaleValue where
  | ref (r : DataRef)
  | values (vs : List Json)
  | literal (v : Json)
  deriving DecidableEq

namespace ScaleValue

def toAttribute : ScaleValue → Attribute
  | ref r => .node r.attributes
  | values vs => .value (.arr vs)
  | literal v => .value v

def dataRef? : ScaleValue → Option DataRef
  | ref r => some r
  | _ => none

end ScaleValue

structure Scale where
  name : String
  type : ScaleType
  domain : Option ScaleValue := none
  domainMin : Option ScaleValue := none
  domainMax : Option ScaleValue := none
  range : Option ScaleValue := none
  rangeMin : Option ScaleValue := none
  rangeMax : Option ScaleValue := none
  reverse : Bool := false
  round : Bool := false
  points : Bool := false
  padding : Option Binary64 := none
  sort : Bool := false
  clamp : Bool := false
  nice : Option Nice := none
  exponent : Option Binary64 := none
  zero : Option Bool := none
  deriving DecidableEq

def Nice.toJson : Nice → Json
  | enabled on => .bool on
  | interval every => .str every.name

namespace Scale

/-- The values of domain, bounds and range, in the order of the document. -/
def scaleValues (s : Scale) : List ScaleValue :=
  s.domain.toList ++ s.domainMin.toList ++ s.domainMax.toList ++ s.range.toList ++
    s.rangeMin.toList ++ s.rangeMax.toList

/-- The fields of data sets that the scale refers to. -/
def dataRefs (s : Scale) : List DataRef := s.scaleValues.filterMap ScaleValue.dataRef?

def scaleValue (v : Option ScaleValue) : Attribute :=
  match v with
  | some v => v.toAttribute
  | none => .undefined

def attributes (s : Scale) : Attributes := [
  ("name", .text s.name),
  ("type", .text s.type.name),
  ("domain", scaleValue s.domain),
  ("domain_min", scaleValue s.domainMin),
  ("domain_max", scaleValue s.domainMax),
  ("range", scaleValue s.range),
  ("range_min", scaleValue s.rangeMin),
  ("range_max", scaleValue s.rangeMax),
  ("reverse", .flag s.reverse),
  ("round", .flag s.round),
  ("points", .flag s.points),
  ("padding", .optionalDouble s.padding),
  ("sort", .flag s.sort),
  ("clamp", .flag s.clamp),
  ("nice", .ofOption Nice.toJson s.nice),
  ("exponent", .optionalDouble s.exponent),
  ("zero", .ofOption .bool s.zero)]

end Scale

end ChartSpec
