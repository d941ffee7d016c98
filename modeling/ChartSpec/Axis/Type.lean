/-!
# Axis vocabulary

The two types of axes, the sides that an axis can be on, the layers it can be drawn in, and the
parts of it that can be styled.
-/

namespace ChartSpec

inductive AxisType where
  | x
  | y
  deriving DecidableEq

namespace AxisType

def name : AxisType → String
  | x => "x"
  | y => "y"

def all : List AxisType := [x, y]

def ofName? (s : String) : Option AxisType := all.find? fun t => t.name == s

end AxisType

inductive AxisOrient where
  | top
  | bottom
  | left
  | right
  deriving DecidableEq

namespace AxisOrient

def name : AxisOrient → String
  | top => "top"
  | bottom => "bottom"
  | left => "left"
  | right => "right"

def all : List AxisOrient := [top, bottom, left, right]

def ofName? (s : String) : Option AxisOrient := all.find? fun o => o.name == s

/-- Horizontal axes are at the top or the bottom, vertical ones at the left or the right. -/
def fits : AxisOrient → AxisType → Bool
  | top, .x => true
  | bottom, .x => true
  | left, .y => true
  | right, .y => true
  | _, _ => false

end AxisOrient

inductive AxisLayer where
  | front
  | back
  deriving DecidableEq

namespace AxisLayer

def name : AxisLayer → String
  | front => "front"
  | back => "back"

def all : List AxisLayer := [front, back]

def ofName? (s : String) : Option AxisLayer := all.find? fun l => l.name == s

end AxisLayer

/-- A part of an axis that has a style of its own. -/
inductive AxisPart where
  | ticks
  | majorTicks
  | minorTicks
  | labels
  | title
  | axis
  deriving DecidableEq

namespace AxisPart

def name : AxisPart → String
  | ticks => "ticks"
  | majorTicks => "major_ticks"
  | minorTicks => "minor_ticks"
  | labels => "labels"
  | title => "title"
  | axis => "axis"

def all : List AxisPart := [ticks, majorTicks, minorTicks, labels, title, axis]

def ofName? (s : String) : Option AxisPart := all.find? fun p => p.name == s

end AxisPart

end ChartSpec
