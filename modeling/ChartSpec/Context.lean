import ChartSpec.Axis.Build
import ChartSpec.Data.Build
import ChartSpec.Scale.Build
import ChartSpec.Visualization.Build

/-!
# Contexts

A context is a registry together with a configuration.  Charts are built in steps, each of which
makes one part in a context.  A step that fails leaves no trace; one that succeeds registers its
part, except that visualizations are not registered.  Parts of different contexts never meet.
-/

namespace ChartSpec

structure Context where
  config : Config := {}
  registry : Registry := {}

/-- A step: one part, with the calls that build it. -/
inductive Step where
  | data (name : String) (calls : List DataCall)
  | scale (name : String) (type : ScaleType) (calls : List ScaleCall)
  | transform (kind : TransformKind) (properties : Json)
  | mark (type : MarkType) (calls : List MarkCall)
  | axis (type : AxisType) (calls : List AxisCall)
  | visualization (calls : List VisualizationCall)

/-- What a step makes. -/
inductive Part where
  | data (d : Data)
  | scale (s : Scale)
  | transform (t : Transform)
  | mark (m : Mark)
  | axis (a : Axis)
  | visualization (v : Visualization)

/-- What a context tells of a part that it has registered or compiled. -/
def Part.notices (c : Config) : Part → Except Error (List Notice)
  | data d => .ok [.registeredData d.name]
  | scale s => .ok [.registeredScale s.name]
  | transform t => .ok [.registeredTransform t.kind]
  | mark m => .ok [.registeredMark m.type m.name]
  | axis a => .ok [.registeredAxis a.type a.scale]
  | visualization v => v.notices c

namespace Context

/-- The context after its registry has grown. -/
def grown {α : Type} (c : Context) (part : α → Part) (r : Registry × α) : Context × Part :=
  ({ c with registry := r.1 }, part r.2)

/-- Takes a step. -/
def build (c : Context) : Step → Except Failure (Context × Part)
  | .data name calls => (c.registry.buildData name calls).map (c.grown .data)
  | .scale name type calls => (c.registry.buildScale name type calls).map (c.grown .scale)
  | .transform kind properties =>
    match c.registry.buildTransform kind properties with
    | .ok r => .ok (c.grown .transform r)
    | .error error => .error { error, done := 0 }
  | .mark type calls => (c.registry.buildMark type calls).map (c.grown .mark)
  | .axis type calls => (c.registry.buildAxis type calls).map (c.grown .axis)
  | .visualization calls =>
    (Visualization.build c.config calls).map fun v => (c, .visualization v)

end Context

end ChartSpec
