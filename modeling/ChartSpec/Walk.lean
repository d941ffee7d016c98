import ChartSpec.Visualization.Basic

/-!
# Walks

A walk visits a visualization and everything in it once: the data sets, then of each scope the
scales, the axes and the marks, and behind a group mark the scope inside it.  A scope is the list
of the ordinals of the groups around it, each counted among the groups beside it.

The visitor keeps a state and may stop the walk with an error.
-/

namespace ChartSpec

/-- The ordinals of the enclosing groups, the outermost first. -/
abbrev Scope := List Nat

/-- What a walk comes to.  The scope of a group is the one inside it. -/
inductive Visit where
  | visualization (v : Visualization)
  | data (d : Data) (scope : Scope)
  | scale (s : Scale) (scope : Scope)
  | axis (a : Axis) (scope : Scope)
  | mark (m : Mark) (scope : Scope)
  | group (m : Mark) (scope : Scope)

/-- Takes a visit to the next state, or stops. -/
abbrev Visitor (ε σ : Type) := σ → Visit → Except ε σ

section

variable {ε σ : Type} (visit : Visitor ε σ)

def walkScales (scope : Scope) (state : σ) (scales : List Scale) : Except ε σ :=
  scales.foldlM (fun state s => visit state (.scale s scope)) state

def walkAxes (scope : Scope) (state : σ) (axes : List Axis) : Except ε σ :=
  axes.foldlM (fun state a => visit state (.axis a scope)) state

mutual

/-- Visits a mark; `ordinal` is the place of a group among the groups beside it. -/
def walkMark (scope : Scope) (ordinal : Nat) (state : σ) : Mark → Except ε σ
  | m@⟨body, _, _, _, _, _, _, _, _⟩ =>
    if m.isGroup then do
      let state ← visit state (.group m (scope ++ [ordinal]))
      walkBody (scope ++ [ordinal]) state body
    else visit state (.mark m scope)

/-- Visits the contents of a mark. -/
def walkBody (scope : Scope) (state : σ) : Body Mark → Except ε σ
  | .plain _ _ => .ok state
  | .group scales axes marks => do
    let state ← walkScales visit scope state scales
    let state ← walkAxes visit scope state axes
    walkMarks scope 0 state marks

/-- Visits the marks of a scope, of which `groups` groups have been visited. -/
def walkMarks (scope : Scope) (groups : Nat) (state : σ) : List Mark → Except ε σ
  | [] => .ok state
  | m :: rest => do
    let state ← walkMark scope groups state m
    walkMarks scope (if m.isGroup then groups + 1 else groups) state rest

end

/-- Visits a visualization and everything in it. -/
def Visualization.walk (state : σ) (v : Visualization) : Except ε σ := do
  let state ← visit state (.visualization v)
  let state ← v.data.foldlM (fun state d => visit state (.data d [])) state
  let state ← walkScales visit [] state v.scales
  let state ← walkAxes visit [] state v.axes
  walkMarks visit [] 0 state v.marks

end

end ChartSpec
