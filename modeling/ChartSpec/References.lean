import ChartSpec.Walk

/-!
# References

A walk collects the names of data sets and scales that a visualization defines, and those that
its parts refer to.  Data sets are visible everywhere.  A scale is visible in the scope that
defines it and in all scopes inside that one.  What is referred to and not visible dangles.
-/

namespace ChartSpec

/-- Names defined and names referred to, each once, in the order of the walk. -/
structure References where
  data : List String := []
  scales : List (Scope × String) := []
  dataRefs : List String := []
  scaleRefs : List (Scope × String) := []

namespace References

/-- Adds an element that is not in the list yet at its end. -/
def addNew {α : Type} [DecidableEq α] (xs : List α) (x : α) : List α :=
  if x ∈ xs then xs else xs ++ [x]

def referData (r : References) (names : List String) : References :=
  { r with dataRefs := names.foldl addNew r.dataRefs }

def referScales (r : References) (scope : Scope) (names : List String) : References :=
  { r with scaleRefs := (names.map fun n => (scope, n)).foldl addNew r.scaleRefs }

def referMark (r : References) (scope : Scope) (m : Mark) : References :=
  (r.referData m.dataNames).referScales scope m.scaleNames

/-- Takes one visit.  A group's own properties are looked up around the group. -/
def visit (r : References) : Visit → References
  | .visualization _ => r
  | .data d _ =>
    { r with data := addNew r.data d.name }.referData
      (d.source.toList ++ d.transforms.flatMap Transform.sources)
  | .scale s scope =>
    { r with scales := addNew r.scales (scope, s.name) }.referData (s.dataRefs.map DataRef.data)
  | .axis a scope => r.referScales scope (a.scale :: a.styledScaleNames)
  | .mark m scope => r.referMark scope m
  | .group m scope => r.referMark scope.dropLast m

/-- Whether a scale of the name is defined in the scope or around it. -/
def isScaleVisible (r : References) (name : String) (scope : Scope) : Bool :=
  r.scales.any fun (s, n) => n == name && s.isPrefixOf scope

/-- What is referred to and not visible: data sets, then scales, in order of first reference. -/
def dangling (r : References) : List String :=
  ((r.dataRefs.filter fun n => !r.data.contains n).map fun n => "Data " ++ n) ++
    ((r.scaleRefs.filter fun (scope, n) => !r.isScaleVisible n scope).map
      fun (_, n) => "Scale " ++ n).eraseDups

end References

namespace Visualization

/-- The references of a visualization. -/
def references (v : Visualization) : Except Error References :=
  v.walk (fun r visit => .ok (References.visit r visit)) {}

/-- The data sets and scales that a visualization refers to and does not include. -/
def danglingReferences (v : Visualization) : Except Error (List String) :=
  v.references.map References.dangling

end Visualization

end ChartSpec
