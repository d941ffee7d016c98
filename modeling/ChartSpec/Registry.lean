import ChartSpec.Data.Basic
import ChartSpec.Mark.Basic
import ChartSpec.Transform.Attach

/-!
# Registries

A registry lists the finished parts of a chart in the order in which they were finished.  Names
of data sets, scales and marks are unique among their kind.  Nothing is ever taken out.
-/

namespace ChartSpec

structure Registry where
  data : List Data := []
  scales : List Scale := []
  marks : List Mark := []
  transforms : List Transform := []
  axes : List Axis := []

namespace Registry

def findData? (r : Registry) (name : String) : Option Data := r.data.find? fun d => d.name == name

def findScale? (r : Registry) (name : String) : Option Scale :=
  r.scales.find? fun s => s.name == name

def findMark? (r : Registry) (name : String) : Option Mark :=
  r.marks.find? fun m => m.name == some name

def expectData (r : Registry) (name : String) : Except Error Data :=
  demand (.notRegistered .data name) (r.findData? name)

def expectScale (r : Registry) (name : String) : Except Error Scale :=
  demand (.notRegistered .scale name) (r.findScale? name)

/-- The fields of the registered data sets. -/
def known (r : Registry) : KnownData := fun name => (r.findData? name).map Data.fields

/-- How many parts of a kind have a name.  Transforms and axes have none. -/
def count (r : Registry) (kind : EntityKind) (name : String) : Nat :=
  match kind with
  | .data => r.data.countP fun d => d.name == name
  | .scale => r.scales.countP fun s => s.name == name
  | .mark => r.marks.countP fun m => m.name == some name
  | .transform => 0
  | .axis => 0

/-- Whether several parts of a kind have a name. -/
def isDuplicate (r : Registry) (kind : EntityKind) (name : String) : Bool :=
  decide (2 ≤ r.count kind name)

/-- Refuses a name that a part of the kind already has. -/
def checkUnique (r : Registry) (kind : EntityKind) (name : String) : Except Error Unit :=
  if r.count kind name = 0 then .ok () else .error (.refused (.duplicateName kind name))

def registerData (r : Registry) (d : Data) : Except Error Registry := do
  r.checkUnique .data d.name
  return { r with data := r.data ++ [d] }

def registerScale (r : Registry) (s : Scale) : Except Error Registry := do
  r.checkUnique .scale s.name
  return { r with scales := r.scales ++ [s] }

/-- A mark without a name is always accepted. -/
def registerMark (r : Registry) (m : Mark) : Except Error Registry := do
  m.name.forM (r.checkUnique .mark)
  return { r with marks := r.marks ++ [m] }

def registerTransform (r : Registry) (t : Transform) : Registry :=
  { r with transforms := r.transforms ++ [t] }

def registerAxis (r : Registry) (a : Axis) : Registry := { r with axes := r.axes ++ [a] }

end Registry

end ChartSpec
