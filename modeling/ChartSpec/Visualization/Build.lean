import ChartSpec.Config
import ChartSpec.Draft
import ChartSpec.Notice
import ChartSpec.Text.Blank

/-!
# Building visualizations

A visualization starts with the configured defaults and takes in the parts that it is given.  At
the end the context is told of it, and of what it refers to and does not include.
-/

namespace ChartSpec

inductive VisualizationCall where
  | name (name : String)
  | width (n : UInt32)
  | height (n : UInt32)
  | viewport (v : Viewport)
  | viewportValue (v : Json)
  | padding (n : Int)
  | paddingValue (v : Json)
  | data (data : List Data)
  | scales (scales : List Scale)
  | marks (marks : List Mark)
  | axes (axes : List Axis)

/-- A visualization on the way.  Until it is set, the viewport follows width and height. -/
structure VisualizationDraft where
  name : Option String := none
  width : UInt32
  height : UInt32
  viewport : Option Viewport := none
  padding : Padding
  data : List Data := []
  scales : List Scale := []
  marks : List Mark := []
  axes : List Axis := []

namespace VisualizationDraft

/-- The draft with the configured defaults. -/
def start (c : Config) : VisualizationDraft :=
  { width := c.defaultWidth, height := c.defaultHeight, padding := .uniform c.defaultPadding }

def apply (d : VisualizationDraft) : VisualizationCall → Except Error VisualizationDraft
  | .name name =>
    if Text.isBlank name then .error (.refused (.blankName "Visualization"))
    else .ok { d with name := some name }
  | .width n => .ok { d with width := n }
  | .height n => .ok { d with height := n }
  | .viewport v => .ok { d with viewport := some v }
  | .viewportValue v => do return { d with viewport := some (← Viewport.ofJson v) }
  | .padding n => .ok { d with padding := .uniform n }
  | .paddingValue v => do return { d with padding := ← Padding.ofJson v }
  | .data data => .ok { d with data := d.data ++ data }
  | .scales scales => .ok { d with scales := d.scales ++ scales }
  | .marks marks => .ok { d with marks := d.marks ++ marks }
  | .axes axes => .ok { d with axes := d.axes ++ axes }

def finish (d : VisualizationDraft) : Visualization :=
  { name := d.name
    width := d.width
    height := d.height
    viewport := d.viewport.getD ⟨d.width, d.height⟩
    padding := d.padding
    data := d.data
    scales := d.scales
    marks := d.marks
    axes := d.axes }

/-- Finishes a visualization and tells of it.  Its references are looked at before it is
returned. -/
def compile (c : Config) (d : VisualizationDraft) : Except Error Visualization := do
  let v := d.finish
  let _ ← v.notices c
  return v

end VisualizationDraft

/-- Builds a visualization with the defaults of a configuration. -/
def Visualization.build (c : Config) (calls : List VisualizationCall) :
    Except Failure Visualization := do
  let draft ← applyAll VisualizationDraft.apply (.start c) calls
  finishing calls (VisualizationDraft.compile c) draft

end ChartSpec
