import ChartSpec.Proofs.Closure
import ChartSpec.Proofs.Document.Parts
import ChartSpec.Proofs.Levels

/-!
# Closed documents

A chart document lists data sets, and it and the marks in it list scales, axes and marks.  It is
closed if every data set that is named anywhere is listed, and every scale that is used is listed
in the same place or around it (`Json.Closed`).

The levels of a chart and the places of its document correspond one to one (`Level.exists_place`,
`Level.exists_level`), and the same references are read off both.  So the document is closed
exactly if nothing dangles (`Visualization.danglingReferences_eq_nil_iff_closed`).  Two things are
needed of the chart: no part of an axis is styled twice, which holds of all axes that are built,
and no scale has a literal object, which might be taken for a field of a data set.
-/

namespace ChartSpec

namespace Json

/-- The places of a document that may list scales, axes and marks, each with those around it, the
innermost one first. -/
inductive Within (document : Json) : Json → List Json → Prop where
  | document : Within document document []
  | inside {place m : Json} {outer : List Json} (h : Within document place outer)
    (hm : m ∈ place.itemsAt "marks") : Within document m (place :: outer)

/-- The data sets that the scales and the marks of a place name. -/
def ownSources (place : Json) : List String :=
  (place.itemsAt "scales").flatMap scaleSources ++ (place.itemsAt "marks").flatMap markSources

/-- The scales that the axes and the marks of a place use. -/
def ownUses (place : Json) : List String :=
  (place.itemsAt "axes").flatMap axisScales ++ (place.itemsAt "marks").flatMap markScales

/-- Every data set that is named and every scale that is used is listed where it is looked up. -/
structure Closed (document : Json) : Prop where
  data : ∀ d ∈ document.itemsAt "data", ∀ name ∈ d.dataSources, name ∈ document.namesAt "data"
  sources : ∀ place outer, document.Within place outer →
    ∀ name ∈ place.ownSources, name ∈ document.namesAt "data"
  uses : ∀ place outer, document.Within place outer →
    ∀ name ∈ place.ownUses, ∃ around ∈ place :: outer, name ∈ around.namesAt "scales"

end Json

/-- What a level holds is listed in a place of the document. -/
structure Level.IsWritten (l : Level) (place : Json) : Prop where
  scales : place.itemsAt "scales" = l.scales.map fun s => s.attributes.collect
  axes : place.itemsAt "axes" = l.axes.map fun a => a.attributes.collect
  marks : place.itemsAt "marks" = l.marks.map fun m => m.attributes.collect

/-! ## Lemmas -/

/-! ### Places that are written -/

theorem Mark.isWritten_level (m : Mark) : m.level.IsWritten m.attributes.collect := by
  have hbody := m.attributes_eq
  rw [level]
  cases hm : m.body with
  | plain type hplain =>
    have hempty : ∀ key ∈ ["scales", "axes", "marks"], m.attributes.collect.itemsAt key = [] := by
      intro key hkey
      refine Attributes.itemsAt_of_not_mem m.nodup_keys ?_
      rw [hbody, hm]
      show key ∉ ["type", "name", "description", "from", "properties", "key", "delay",
        "ease"].map toCamel
      revert key
      decide
    exact ⟨hempty _ (by simp), hempty _ (by simp), hempty _ (by simp)⟩
  | group scales axes marks =>
    have hlisted : ∀ {α : Type} (name : String) (f : α → Attributes) (parts : List α),
        toCamel name = name →
        (name, .nodes (parts.map f)) ∈ bodyAttributes (.group scales axes marks) →
        m.attributes.collect.itemsAt name = parts.map fun part => (f part).collect := by
      intro α name f parts hname h
      refine Attributes.itemsAt_of_nodes name f parts m.nodup_keys hname ?_
      rw [hbody, hm]
      exact List.mem_append_right _ h
    exact {
      scales := hlisted "scales" Scale.attributes scales (by decide) (by simp [bodyAttributes])
      axes := hlisted "axes" Axis.attributes axes (by decide) (by simp [bodyAttributes])
      marks := hlisted "marks" attributes marks (by decide)
        (by simp [bodyAttributes, marksAttributes_eq]) }

namespace Visualization

theorem itemsAt_toSpec {α : Type} (v : Visualization) (name : String) (f : α → Attributes)
    (parts : List α) (hname : toCamel name = name)
    (h : (name, .nodes (parts.map f)) ∈ v.attributes) :
    v.toSpec.itemsAt name = parts.map fun part => (f part).collect := by
  have hkeys : v.attributes.keys.Nodup := by
    show (["name", "width", "height", "viewport", "padding", "data", "scales", "marks",
      "axes"].map toCamel).Nodup
    decide
  exact Attributes.itemsAt_of_nodes name f parts hkeys hname h

theorem isWritten_level (v : Visualization) : v.level.IsWritten v.toSpec where
  scales := v.itemsAt_toSpec "scales" Scale.attributes v.scales (by decide) (by simp [attributes])
  axes := v.itemsAt_toSpec "axes" Axis.attributes v.axes (by decide) (by simp [attributes])
  marks := v.itemsAt_toSpec "marks" Mark.attributes v.marks (by decide) (by simp [attributes])

theorem data_toSpec (v : Visualization) :
    v.toSpec.itemsAt "data" = v.data.map fun d => d.attributes.collect :=
  v.itemsAt_toSpec "data" Data.attributes v.data (by decide) (by simp [attributes])

theorem namesAt_data (v : Visualization) : v.toSpec.namesAt "data" = v.data.map Data.name := by
  rw [Json.namesAt, data_toSpec, List.filterMap_map, ← List.filterMap_eq_map]
  exact List.filterMap_congr fun d _ => d.name_collect

end Visualization

namespace Level

variable {root l : Level} {outer : List Level} {document place : Json}

/-! ### What is read off a place -/

theorem IsWritten.namesAt (h : l.IsWritten place) :
    place.namesAt "scales" = l.scales.map Scale.name := by
  rw [Json.namesAt, h.scales, List.filterMap_map, ← List.filterMap_eq_map]
  exact List.filterMap_congr fun s _ => s.name_collect

theorem IsWritten.ownSources (h : l.IsWritten place)
    (hscales : ∀ s ∈ l.scales, ∀ v ∈ s.scaleValues, v.isObject = false) :
    place.ownSources = l.ownDataNames := by
  rw [Json.ownSources, h.scales, h.marks, List.flatMap_map, List.flatMap_map, ownDataNames]
  congr 1
  · exact List.flatMap_congr fun s hs => Scale.scaleSources_collect (hscales s hs)
  · exact List.flatMap_congr fun m _ => m.markSources_collect

theorem IsWritten.ownUses (h : l.IsWritten place)
    (haxes : ∀ a ∈ l.axes, a.settings.PartsDistinct) : place.ownUses = l.ownScaleNames := by
  rw [Json.ownUses, h.axes, h.marks, List.flatMap_map, List.flatMap_map, ownScaleNames]
  congr 1
  · exact List.flatMap_congr fun a ha => Axis.axisScales_collect (haxes a ha)
  · exact List.flatMap_congr fun m _ => m.markScales_collect

/-- Scales are found around a place as they are around its level. -/
theorem exists_namesAt_iff {levels : List Level} {places : List Json} {name : String}
    (h : List.Forall₂ IsWritten levels places) :
    (∃ around ∈ places, name ∈ around.namesAt "scales") ↔
      ∃ around ∈ levels, name ∈ around.scales.map Scale.name := by
  induction h with
  | nil => simp
  | cons hwritten _ ih =>
    simp only [List.mem_cons, exists_eq_or_imp, hwritten.namesAt, ih]

/-! ### Levels and places -/

theorem exists_place (hroot : root.IsWritten document) (hl : root.Within l outer) :
    ∃ place around, document.Within place around ∧
      List.Forall₂ IsWritten (l :: outer) (place :: around) := by
  induction hl with
  | root => exact ⟨document, [], .document, .cons hroot .nil⟩
  | @inside l outer m _ hm ih =>
    obtain ⟨place, around, hplace, hwritten⟩ := ih
    obtain ⟨hhere, -⟩ := List.forall₂_cons.1 hwritten
    have hlisted : m.attributes.collect ∈ place.itemsAt "marks" :=
      hhere.marks ▸ List.mem_map_of_mem hm
    exact ⟨_, _, .inside hplace hlisted, .cons m.isWritten_level hwritten⟩

theorem exists_level (hroot : root.IsWritten document) {around : List Json}
    (hplace : document.Within place around) :
    ∃ l outer, root.Within l outer ∧ List.Forall₂ IsWritten (l :: outer) (place :: around) := by
  induction hplace with
  | document => exact ⟨root, [], .root, .cons hroot .nil⟩
  | @inside place written around _ hm ih =>
    obtain ⟨l, outer, hl, hwritten⟩ := ih
    obtain ⟨hhere, -⟩ := List.forall₂_cons.1 hwritten
    rw [hhere.marks] at hm
    obtain ⟨m, hinside, rfl⟩ := List.mem_map.1 hm
    exact ⟨_, _, .inside hl hinside, .cons m.isWritten_level hwritten⟩

end Level

/-- Every level of a chart of registered parts holds registered parts, if groups do. -/
theorem Registry.Closed.level {r : Registry} (h : r.Closed) {root l : Level}
    {outer : List Level} (hscales : root.scales ⊆ r.scales) (haxes : root.axes ⊆ r.axes)
    (hmarks : root.marks ⊆ r.marks) (hl : root.Within l outer) :
    l.scales ⊆ r.scales ∧ l.axes ⊆ r.axes ∧ l.marks ⊆ r.marks := by
  induction hl with
  | root => exact ⟨hscales, haxes, hmarks⟩
  | @inside l outer m _ hm ih =>
    rw [Mark.level]
    cases hbody : m.body with
    | plain => simp
    | group scales axes marks => exact (h.marks m (ih.2.2 hm)).contents scales axes marks hbody

/-! ## Top theorem -/

/-- Suppose that all axes of a chart, however deep in groups, have been built, and that no scale
has a literal object as its domain, bound or range.  Then nothing dangles in the chart exactly if
its document is closed. -/
theorem Visualization.danglingReferences_eq_nil_iff_closed (v : Visualization)
    (haxes : ∀ l outer, v.level.Within l outer →
      ∀ a ∈ l.axes, ∃ moves, a ∈ (Bench.run {} moves).registry.axes)
    (hscales : ∀ l outer, v.level.Within l outer →
      ∀ s ∈ l.scales, ∀ value ∈ s.scaleValues, value.isObject = false) :
    v.danglingReferences = .ok [] ↔ v.toSpec.Closed := by
  have hparts : ∀ l outer, v.level.Within l outer → ∀ a ∈ l.axes, a.settings.PartsDistinct := by
    intro l outer hl a ha
    obtain ⟨moves, hbuilt⟩ := haxes l outer hl a ha
    exact Bench.partsDistinct_run moves a hbuilt
  have hdata : v.data.flatMap Data.dataNames = (v.toSpec.itemsAt "data").flatMap
      Json.dataSources := by
    rw [data_toSpec, List.flatMap_map]
    exact List.flatMap_congr fun d _ => d.dataSources_collect.symm
  rw [danglingReferences_eq_nil_iff, ← namesAt_data, hdata]
  constructor
  · rintro ⟨hincluded, hlevels⟩
    have hplaces : ∀ place around, v.toSpec.Within place around →
        (∀ name ∈ place.ownSources, name ∈ v.toSpec.namesAt "data") ∧
        ∀ name ∈ place.ownUses, ∃ p ∈ place :: around, name ∈ p.namesAt "scales" := by
      intro place around hplace
      obtain ⟨l, outer, hl, hwritten⟩ := Level.exists_level v.isWritten_level hplace
      obtain ⟨hhere, -⟩ := List.forall₂_cons.1 hwritten
      rw [hhere.ownSources (hscales l outer hl), hhere.ownUses (hparts l outer hl)]
      refine ⟨(hlevels l outer hl).1, fun name hname => ?_⟩
      exact (Level.exists_namesAt_iff hwritten).2 ((hlevels l outer hl).2 name hname)
    exact {
      data := fun d hd name hname => hincluded name (List.mem_flatMap.2 ⟨d, hd, hname⟩)
      sources := fun place around hplace => (hplaces place around hplace).1
      uses := fun place around hplace => (hplaces place around hplace).2 }
  · intro hclosed
    refine ⟨?_, fun l outer hl => ?_⟩
    · intro name hname
      obtain ⟨d, hd, hname⟩ := List.mem_flatMap.1 hname
      exact hclosed.data d hd name hname
    · obtain ⟨place, around, hplace, hwritten⟩ := Level.exists_place v.isWritten_level hl
      obtain ⟨hhere, -⟩ := List.forall₂_cons.1 hwritten
      rw [← hhere.ownSources (hscales l outer hl), ← hhere.ownUses (hparts l outer hl)]
      refine ⟨hclosed.sources place around hplace, fun name hname => ?_⟩
      exact (Level.exists_namesAt_iff hwritten).1 (hclosed.uses place around hplace name hname)

namespace Bench

/-- A group with all that has been registered before, inside a chart with the same scales. -/
def groupChart : Visualization where
  width := 200
  height := 100
  viewport := ⟨200, 100⟩
  padding := .uniform 0
  data := (run {} groupMoves).registry.data
  scales := (run {} groupMoves).registry.scales
  marks := (run {} groupMoves).registry.marks.drop 1

theorem danglingReferences_eq_nil_iff_closed_group :
    groupChart.danglingReferences = .ok [] ∧ groupChart.toSpec.Closed := by
  have hclosed := closed_run allows_groupMoves
  have hlevel := fun l outer (hl : groupChart.level.Within l outer) =>
    hclosed.level (List.Subset.refl _) (List.nil_subset _) (List.drop_subset 1 _) hl
  have hnothing : groupChart.danglingReferences = .ok [] := by rfl
  refine ⟨hnothing, (groupChart.danglingReferences_eq_nil_iff_closed ?_ ?_).1 hnothing⟩
  · exact fun l outer hl a ha => ⟨groupMoves, (hlevel l outer hl).2.1 ha⟩
  · intro l outer hl s hs
    have hregistered : ∀ s ∈ (run {} groupMoves).registry.scales,
        ∀ value ∈ s.scaleValues, value.isObject = false := by decide
    exact hregistered s ((hlevel l outer hl).1 hs)

end Bench

end ChartSpec
