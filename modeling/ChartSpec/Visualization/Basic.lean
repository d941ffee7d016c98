import ChartSpec.Data.Basic
import ChartSpec.Mark.Basic

/-!
# Visualizations

The root of a chart: its size and the parts that it includes.
-/

namespace ChartSpec

/-- The visible part of a chart. -/
structure Viewport where
  width : UInt32
  height : UInt32
  deriving DecidableEq

namespace Viewport

def side (name : String) (v : Option Json) : Except Error UInt32 :=
  match v.bind (Json.natBelow? UInt32.size) with
  | some n => .ok (UInt32.ofNat n)
  | none => .error (.refused (.viewportSide name))

/-- A viewport from a list of width and height, or from an object. -/
def ofJson (v : Json) : Except Error Viewport :=
  match v with
  | .arr [width, height] => do
    return ⟨← side "width" (some width), ← side "height" (some height)⟩
  | .obj _ => do
    return ⟨← side "width" (v.get? "width"), ← side "height" (v.get? "height")⟩
  | _ => .error (.refused (.viewportShape v))

def toJson (v : Viewport) : Json := .arr [.int v.width.toNat, .int v.height.toNat]

end Viewport

/-- The space around a chart. -/
structure Padding where
  top : Int
  left : Int
  right : Int
  bottom : Int
  deriving DecidableEq

namespace Padding

def uniform (n : Int) : Padding := ⟨n, n, n, n⟩

def side (v : Json) (name : String) : Except Error Int :=
  demand (.paddingSide name) ((v.get? name).bind Json.int64?)

/-- A padding from a number or from an object with all four sides. -/
def ofJson (v : Json) : Except Error Padding :=
  match v with
  | .int _ => (demand (.paddingNumber v) v.int64?).map uniform
  | .float _ => .error (.refused (.paddingNumber v))
  | .obj _ => do
    return ⟨← side v "top", ← side v "left", ← side v "right", ← side v "bottom"⟩
  | _ => .error (.refused (.paddingShape v))

def attributes (p : Padding) : Attributes := [
  ("top", .value (.int p.top)),
  ("left", .value (.int p.left)),
  ("right", .value (.int p.right)),
  ("bottom", .value (.int p.bottom))]

end Padding

structure Visualization where
  name : Option String := none
  width : UInt32
  height : UInt32
  viewport : Viewport
  padding : Padding
  data : List Data := []
  scales : List Scale := []
  marks : List Mark := []
  axes : List Axis := []

namespace Visualization

def attributes (v : Visualization) : Attributes := [
  ("name", .optionalText v.name),
  ("width", .value (.int v.width.toNat)),
  ("height", .value (.int v.height.toNat)),
  ("viewport", .value v.viewport.toJson),
  ("padding", .node v.padding.attributes),
  ("data", .nodes (v.data.map Data.attributes)),
  ("scales", .nodes (v.scales.map Scale.attributes)),
  ("marks", .nodes (v.marks.map Mark.attributes)),
  ("axes", .nodes (v.axes.map Axis.attributes))]

/-- The chart document. -/
def toSpec (v : Visualization) : Json := v.attributes.collect

end Visualization

end ChartSpec
