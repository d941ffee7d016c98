import ChartSpec.Mark.Type
import ChartSpec.Naming

/-!
# Visual channels

The visual properties that marks and parts of axes can have.  The first fourteen apply to marks
of every type, the others to some types only.
-/

namespace ChartSpec

inductive Channel where
  | x
  | x2
  | width
  | y
  | y2
  | height
  | opacity
  | fill
  | fillOpacity
  | stroke
  | strokeWidth
  | strokeOpacity
  | strokeDash
  | strokeDashOffset
  | size
  | shape
  | path
  | innerRadius
  | outerRadius
  | startAngle
  | endAngle
  | interpolate
  | tension
  | url
  | align
  | baseline
  | text
  | dx
  | dy
  | angle
  | font
  | fontSize
  | fontWeight
  | fontStyle
  deriving DecidableEq

namespace Channel

def name : Channel → String
  | x => "x"
  | x2 => "x2"
  | width => "width"
  | y => "y"
  | y2 => "y2"
  | height => "height"
  | opacity => "opacity"
  | fill => "fill"
  | fillOpacity => "fill_opacity"
  | stroke => "stroke"
  | strokeWidth => "stroke_width"
  | strokeOpacity => "stroke_opacity"
  | strokeDash => "stroke_dash"
  | strokeDashOffset => "stroke_dash_offset"
  | size => "size"
  | shape => "shape"
  | path => "path"
  | innerRadius => "inner_radius"
  | outerRadius => "outer_radius"
  | startAngle => "start_angle"
  | endAngle => "end_angle"
  | interpolate => "interpolate"
  | tension => "tension"
  | url => "url"
  | align => "align"
  | baseline => "baseline"
  | text => "text"
  | dx => "dx"
  | dy => "dy"
  | angle => "angle"
  | font => "font"
  | fontSize => "font_size"
  | fontWeight => "font_weight"
  | fontStyle => "font_style"

/-- The channels that marks of every type have. -/
def shared : List Channel := [
  x, x2, width, y, y2, height, opacity, fill, fillOpacity, stroke, strokeWidth, strokeOpacity,
  strokeDash, strokeDashOffset]

/-- All channels, in the order of the document. -/
def all : List Channel := shared ++ [
  size, shape, path, innerRadius, outerRadius, startAngle, endAngle, interpolate, tension, url,
  align, baseline, text, dx, dy, angle, font, fontSize, fontWeight, fontStyle]

/-- The channels that marks of a type have beside the shared ones. -/
def special : MarkType → List Channel
  | .rect => []
  | .symbol => [size, shape]
  | .path => [path]
  | .arc => [innerRadius, outerRadius, startAngle, endAngle]
  | .area => [interpolate, tension]
  | .line => [interpolate, tension]
  | .image => [url, align, baseline]
  | .text => [text, align, baseline, dx, dy, angle, font, fontSize, fontWeight, fontStyle]
  | .group => []

/-- Whether a channel applies to a mark type; parts of an axis have no type and all channels. -/
def validFor (c : Channel) : Option MarkType → Bool
  | none => true
  | some t => shared.contains c || (special t).contains c

/-- The channel of a name in either spelling. -/
def ofName? (s : String) : Option Channel := all.find? fun c => c.name == toSnake s

end Channel

end ChartSpec
