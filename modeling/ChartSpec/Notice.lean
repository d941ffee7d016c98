import ChartSpec.Config
import ChartSpec.References

/-!
# Notices

What a context tells while a chart is built: each part that it registers, each visualization
that it compiles, and, as warnings, what a visualization refers to and does not include.
-/

namespace ChartSpec

inductive Notice where
  | registeredData (name : String)
  | registeredScale (name : String)
  | registeredMark (type : MarkType) (name : Option String)
  | registeredTransform (kind : TransformKind)
  | registeredAxis (type : AxisType) (scale : String)
  | compiled (data scales marks axes : Nat)
  | dangling (reference : String)
  deriving DecidableEq

namespace Notice

def isWarning : Notice → Bool
  | dangling _ => true
  | _ => false

def message : Notice → String
  | registeredData name => "Registered Data " ++ name
  | registeredScale name => "Registered Scale " ++ name
  | registeredMark type name => "Registered " ++ type.name ++ " Mark " ++ name.getD "<unnamed>"
  | registeredTransform kind => "Registered " ++ kind.name ++ " transform"
  | registeredAxis type scale => "Registered " ++ type.name ++ " axis on scale " ++ scale
  | compiled data scales marks axes =>
    "Compiled visualization with " ++ toString data ++ " data, " ++ toString scales ++
      " scales, " ++ toString marks ++ " marks and " ++ toString axes ++ " axes"
  | dangling reference =>
    "Visualization refers to " ++ reference ++ ", which it does not include"

/-- A line of a journal. -/
def line (n : Notice) : String := (if n.isWarning then "WARN " else "DEBUG ") ++ n.message

end Notice

/-- What compiling a visualization tells: its dangling references first, if they are checked. -/
def Visualization.notices (c : Config) (v : Visualization) : Except Error (List Notice) := do
  let dangling ← if c.checkReferences then v.danglingReferences else .ok []
  return dangling.map .dangling ++
    [.compiled v.data.length v.scales.length v.marks.length v.axes.length]

end ChartSpec
