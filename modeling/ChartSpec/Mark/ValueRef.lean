import ChartSpec.Attribute

/-!
# Value references

Where the value of a visual property comes from: a constant, a field, a scale applied to it,
or the enclosing group.  A `ValueSpec` is what a caller says, a `ValueRef` what has been resolved.
-/

namespace ChartSpec

/-- A scale by its name, which must be registered, or as the scale itself. -/
inductive ScaleReference where
  | name (name : String)
  | object (name : String)
  deriving DecidableEq

structure ValueRef where
  value : Option Json := none
  field : Option String := none
  scale : Option String := none
  mult : Option Binary64 := none
  offset : Option Binary64 := none
  /-- Whether the width of the scale's band is meant and not a position. -/
  band : Bool := false
  /-- A property of the enclosing group. -/
  group : Option String := none
  deriving DecidableEq

def ValueRef.attributes (v : ValueRef) : Attributes := [
  ("value", .ofOption id v.value),
  ("field", .optionalText v.field),
  ("scale", .optionalText v.scale),
  ("mult", .optionalDouble v.mult),
  ("offset", .optionalDouble v.offset),
  ("band", .flag v.band),
  ("group", .optionalText v.group)]

structure ValueSpec where
  value : Option Json := none
  field : Option String := none
  scale : Option ScaleReference := none
  mult : Option Json := none
  offset : Option Json := none
  band : Bool := false
  group : Option String := none
  deriving DecidableEq

/-- A constant. -/
def ValueSpec.constant (v : Json) : ValueSpec := { value := some v }

end ChartSpec
