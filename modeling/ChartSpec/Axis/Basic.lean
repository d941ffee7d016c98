import ChartSpec.Axis.Type
import ChartSpec.Mark.Styling

/-!
# Axes

An axis shows one scale.  Everything else about it is optional.
-/

namespace ChartSpec

/-- What can be set on an axis beside its scale. -/
structure AxisSettings where
  orient : Option AxisOrient := none
  format : Option String := none
  ticks : Option UInt32 := none
  values : Option (List Json) := none
  subdivide : Option UInt32 := none
  tickPadding : Option Binary64 := none
  tickSize : Option Binary64 := none
  tickSizeMajor : Option Binary64 := none
  tickSizeMinor : Option Binary64 := none
  tickSizeEnd : Option Binary64 := none
  offset : Option Binary64 := none
  /-- The styled parts, in the order in which they were first styled. -/
  parts : List (AxisPart × Styling) := []
  title : Option String := none
  titleOffset : Option Binary64 := none
  grid : Bool := false
  layer : Option AxisLayer := none

structure Axis where
  type : AxisType
  scale : String
  settings : AxisSettings := {}

namespace Axis

def partsAttribute (parts : List (AxisPart × Styling)) : Attribute :=
  if parts.isEmpty then .undefined
  else .map (parts.map fun (part, styling) => (part.name, .node styling.attributes))

def attributes (a : Axis) : Attributes :=
  let s := a.settings
  [("type", .text a.type.name),
    ("scale", .text a.scale),
    ("orient", .optionalText (s.orient.map AxisOrient.name)),
    ("format", .optionalText s.format),
    ("ticks", .ofOption (fun n : UInt32 => .int n.toNat) s.ticks),
    ("values", .ofOption .arr s.values),
    ("subdivide", .ofOption (fun n : UInt32 => .int n.toNat) s.subdivide),
    ("tick_padding", .optionalDouble s.tickPadding),
    ("tick_size", .optionalDouble s.tickSize),
    ("tick_size_major", .optionalDouble s.tickSizeMajor),
    ("tick_size_minor", .optionalDouble s.tickSizeMinor),
    ("tick_size_end", .optionalDouble s.tickSizeEnd),
    ("offset", .optionalDouble s.offset),
    ("properties", partsAttribute s.parts),
    ("title", .optionalText s.title),
    ("title_offset", .optionalDouble s.titleOffset),
    ("grid", .flag s.grid),
    ("layer", .optionalText (s.layer.map AxisLayer.name))]

/-- The names of the scales that the styled parts use, in order. -/
def styledScaleNames (a : Axis) : List String :=
  a.settings.parts.flatMap fun (_, styling) => styling.scaleNames

end Axis

end ChartSpec
