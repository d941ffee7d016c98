import ChartSpec.Proofs.Distinct
import ChartSpec.Proofs.Mark.Styling
import ChartSpec.Proofs.Walk

/-!
# What a walk collects

Each visit brings in names of four sorts: data sets and scales that it defines, data sets and
scales that it refers to.  The references of a visualization are the first occurrences of what
its visits bring in (`Visualization.references_eq`).

What a part refers to stands in these slots, and nowhere else (`mem_dataNames`, `mem_scaleNames`):

    data set    source, the data sets of its transforms
    scale       domain, domainMin, domainMax, range, rangeMin, rangeMax
    mark        from, the data sets of its transforms; each channel of each state, delay
    axis        scale, each channel of each styled part
-/

namespace ChartSpec

/-- The names of the data sets that a data set reads: its source, then those of its transforms. -/
def Data.dataNames (d : Data) : List String :=
  d.source.toList ++ d.transforms.flatMap Transform.sources

/-- The names of the data sets behind the domain, the bounds and the range of a scale. -/
def Scale.dataNames (s : Scale) : List String := s.dataRefs.map DataRef.data

/-- The names of the scales that an axis shows and that its styled parts use. -/
def Axis.scaleNames (a : Axis) : List String := a.scale :: a.styledScaleNames

namespace Visit

def definedData : Visit → List String
  | .data d _ => [d.name]
  | _ => []

/-- The scale that a visit defines, with the scope that it is defined in. -/
def definedScales : Visit → List (Scope × String)
  | .scale s scope => [(scope, s.name)]
  | _ => []

def dataNames : Visit → List String
  | .data d _ => d.dataNames
  | .scale s _ => s.dataNames
  | .mark m _ => m.dataNames
  | .group m _ => m.dataNames
  | _ => []

/-- The scales that a visit refers to, with the scope to look them up in. -/
def usedScales : Visit → List (Scope × String)
  | .axis a scope => a.scaleNames.map fun n => (scope, n)
  | .mark m scope => m.scaleNames.map fun n => (scope, n)
  | .group m scope => m.scaleNames.map fun n => (scope.dropLast, n)
  | _ => []

end Visit

/-! ## Lemmas -/

/-! ### Slots -/

section

variable {name : String}

theorem Data.mem_dataNames {d : Data} :
    name ∈ d.dataNames ↔ d.source = some name ∨ ∃ t ∈ d.transforms, name ∈ t.sources := by
  rw [dataNames, List.mem_append, Option.mem_toList, List.mem_flatMap]

theorem Scale.mem_scaleValues {s : Scale} {v : ScaleValue} :
    v ∈ s.scaleValues ↔
      some v ∈ [s.domain, s.domainMin, s.domainMax, s.range, s.rangeMin, s.rangeMax] := by
  simp only [scaleValues, List.mem_append, Option.mem_toList, List.mem_cons, List.not_mem_nil,
    or_false, or_assoc, eq_comm (a := some v)]

theorem Scale.mem_dataNames {s : Scale} :
    name ∈ s.dataNames ↔ ∃ ref, ref.data = name ∧
      some (.ref ref) ∈
        [s.domain, s.domainMin, s.domainMax, s.range, s.rangeMin, s.rangeMax] := by
  have href : ∀ (v : ScaleValue) ref, v.dataRef? = some ref ↔ v = .ref ref := by
    intro v ref
    cases v <;> simp [ScaleValue.dataRef?]
  simp only [dataNames, dataRefs, List.mem_map, List.mem_filterMap, href, exists_eq_right,
    mem_scaleValues, and_comm]

theorem Mark.mem_dataNames {m : Mark} :
    name ∈ m.dataNames ↔
      ∃ o, m.origin = some o ∧ (o.data = some name ∨ ∃ t ∈ o.transforms, name ∈ t.sources) := by
  rw [dataNames]
  cases m.origin with
  | none => simp
  | some o => simp

theorem MarkStates.mem_stylings {states : MarkStates} {s : Styling} :
    s ∈ states.stylings ↔ ∃ state, states.get state = some s := by
  simp only [stylings, List.mem_append, Option.mem_toList]
  constructor
  · rintro (((h | h) | h) | h)
    · exact ⟨.enter, h⟩
    · exact ⟨.update, h⟩
    · exact ⟨.exit, h⟩
    · exact ⟨.hover, h⟩
  · rintro ⟨state, h⟩
    cases state with
    | enter => exact .inl (.inl (.inl h))
    | update => exact .inl (.inl (.inr h))
    | exit => exact .inl (.inr h)
    | hover => exact .inr h

theorem Mark.mem_scaleNames {m : Mark} :
    name ∈ m.scaleNames ↔
      (∃ state s c v, m.states.get state = some s ∧ s.channels c = some v ∧
        v.scale = some name) ∨
      ∃ v, m.delay = some v ∧ v.scale = some name := by
  rw [scaleNames, List.mem_append, Option.mem_toList, Option.bind_eq_some_iff]
  refine or_congr_left ?_
  simp only [List.mem_flatMap, MarkStates.mem_stylings, Styling.mem_scaleNames]
  constructor
  · rintro ⟨s, ⟨state, hs⟩, c, v, hv, hname⟩
    exact ⟨state, s, c, v, hs, hv, hname⟩
  · rintro ⟨state, s, c, v, hs, hv, hname⟩
    exact ⟨s, ⟨state, hs⟩, c, v, hv, hname⟩

theorem Axis.mem_scaleNames {a : Axis} :
    name ∈ a.scaleNames ↔ name = a.scale ∨
      ∃ p ∈ a.settings.parts, ∃ c v, p.2.channels c = some v ∧ v.scale = some name := by
  simp only [scaleNames, styledScaleNames, List.mem_cons, List.mem_flatMap,
    Styling.mem_scaleNames]

end

namespace References

/-- Adds what visits bring in. -/
def collect (r : References) (visits : List Visit) : References where
  data := (visits.flatMap Visit.definedData).foldl addNew r.data
  scales := (visits.flatMap Visit.definedScales).foldl addNew r.scales
  dataRefs := (visits.flatMap Visit.dataNames).foldl addNew r.dataRefs
  scaleRefs := (visits.flatMap Visit.usedScales).foldl addNew r.scaleRefs

theorem visit_eq_collect (r : References) (v : Visit) : r.visit v = r.collect [v] := by
  cases v <;>
    simp [visit, collect, referMark, referData, referScales, Visit.definedData,
      Visit.definedScales, Visit.dataNames, Visit.usedScales, Data.dataNames, Scale.dataNames,
      Axis.scaleNames]

theorem collect_cons (r : References) (v : Visit) (visits : List Visit) :
    r.collect (v :: visits) = (r.collect [v]).collect visits := by
  simp [collect, List.foldl_append]

theorem foldl_visit (r : References) (visits : List Visit) :
    visits.foldl visit r = r.collect visits := by
  induction visits generalizing r with
  | nil => rfl
  | cons v visits ih => rw [List.foldl_cons, ih, visit_eq_collect, ← collect_cons]

theorem isScaleVisible_iff (r : References) (name : String) (scope : Scope) :
    r.isScaleVisible name scope = true ↔ ∃ d ∈ r.scales, d.2 = name ∧ d.1 <+: scope := by
  simp [isScaleVisible, List.any_eq_true]

/-- What dangles, from all occurrences of names and not from the first ones alone. -/
theorem dangling_collect (visits : List Visit) :
    (collect {} visits).dangling =
      (((visits.flatMap Visit.dataNames).filter fun n =>
          !(visits.flatMap Visit.definedData).contains n).eraseDups.map fun n => "Data " ++ n) ++
        (((visits.flatMap Visit.usedScales).filter fun u =>
          !(collect {} visits).isScaleVisible u.2 u.1).map fun u => "Scale " ++ u.2).eraseDups := by
  have hdata : ∀ n, (collect {} visits).data.contains n =
      (visits.flatMap Visit.definedData).contains n := by
    intro n
    simp [collect, foldl_addNew_nil]
  have hrefs : (collect {} visits).dataRefs = (visits.flatMap Visit.dataNames).eraseDups :=
    foldl_addNew_nil _
  have huses : (collect {} visits).scaleRefs = (visits.flatMap Visit.usedScales).eraseDups :=
    foldl_addNew_nil _
  rw [dangling, hrefs, huses, ← eraseDups_filter, ← eraseDups_filter, eraseDups_map_eraseDups]
  simp only [hdata]

end References

/-! ## Top theorem -/

theorem Visualization.references_eq (v : Visualization) :
    v.references = .ok (References.collect {} v.visits) := by
  rw [references, walk_eq_foldlM]
  exact List.foldlM_pure.trans (congrArg Except.ok (References.foldl_visit _ _))

end ChartSpec
