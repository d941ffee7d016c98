import ChartSpec.Arguments
import ChartSpec.Mark.Build

/-!
# Building axes

An axis needs a scale before it can be finished.
-/

namespace ChartSpec

/-- An axis on the way. -/
structure AxisDraft where
  type : AxisType
  scale : Option String := none
  settings : AxisSettings := {}

inductive AxisCall where
  | scale (s : ScaleReference)
  | orient (o : AxisOrient)
  | format (format : String)
  | ticks (n : UInt32)
  | values (vs : List Json)
  | subdivide (n : UInt32)
  | tickPadding (x : Binary64)
  | tickSize (x : Binary64)
  | tickSizeMajor (x : Binary64)
  | tickSizeMinor (x : Binary64)
  | tickSizeEnd (x : Binary64)
  | offset (x : Binary64)
  | style (part : AxisPart) (edits : List ChannelEdit)
  | title (title : String)
  | titleWithOffset (title : String) (offset : Binary64)
  | grid
  | layer (l : AxisLayer)

namespace AxisDraft

/-- Changes the settings. -/
def setting (a : AxisDraft) (f : AxisSettings → AxisSettings) : Except Error AxisDraft :=
  .ok { a with settings := f a.settings }

def apply (r : Registry) (a : AxisDraft) : AxisCall → Except Error AxisDraft
  | .scale s => do
    let name ← inPlace (.axisScale a.type) (s.resolve r)
    return { a with scale := some name }
  | .orient o =>
    if o.fits a.type then a.setting fun s => { s with orient := some o }
    else .error (.refused (.orientation a.type o))
  | .format format => a.setting fun s => { s with format := some format }
  | .ticks n => a.setting fun s => { s with ticks := some n }
  | .values vs => do
    let vs ← Arguments.atLeastOne "values" vs
    a.setting fun s => { s with values := some vs }
  | .subdivide n => a.setting fun s => { s with subdivide := some n }
  | .tickPadding x => a.setting fun s => { s with tickPadding := some x }
  | .tickSize x => a.setting fun s => { s with tickSize := some x }
  | .tickSizeMajor x => a.setting fun s => { s with tickSizeMajor := some x }
  | .tickSizeMinor x => a.setting fun s => { s with tickSizeMinor := some x }
  | .tickSizeEnd x => a.setting fun s => { s with tickSizeEnd := some x }
  | .offset x => a.setting fun s => { s with offset := some x }
  | .style part edits => do
    let styling ← Styling.ofEdits r none .structural edits
    a.setting fun s => { s with parts := Entries.put part styling s.parts }
  | .title title => a.setting fun s => { s with title := some title }
  | .titleWithOffset title offset =>
    a.setting fun s => { s with title := some title, titleOffset := some offset }
  | .grid => a.setting fun s => { s with grid := true }
  | .layer l => a.setting fun s => { s with layer := some l }

/-- The axis, once it has a scale. -/
def finish (a : AxisDraft) : Except Error Axis :=
  match a.scale with
  | some scale => .ok { type := a.type, scale, settings := a.settings }
  | none => .error (.refused (.axisWithoutScale a.type))

end AxisDraft

namespace Registry

/-- Registers an axis that has a scale. -/
def addAxis (r : Registry) (a : AxisDraft) : Except Error (Registry × Axis) := do
  let axis ← a.finish
  return (r.registerAxis axis, axis)

/-- Builds and registers an axis. -/
def buildAxis (r : Registry) (type : AxisType) (calls : List AxisCall) :
    Except Failure (Registry × Axis) := do
  let draft ← applyAll (AxisDraft.apply r) { type } calls
  finishing calls r.addAxis draft

/-- Makes a transform from its properties, and registers it. -/
def buildTransform (r : Registry) (kind : TransformKind) (properties : Json) :
    Except Error (Registry × Transform) := do
  let t ← Transform.ofProperties kind properties
  inPlace (.transform kind) (t.validate r.known)
  return (r.registerTransform t, t)

end Registry

end ChartSpec
