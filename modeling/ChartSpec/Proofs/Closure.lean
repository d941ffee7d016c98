import ChartSpec.Proofs.Integrity
import ChartSpec.Proofs.ScaleNames
import ChartSpec.Proofs.Scoping

/-!
# Charts of registered parts

A chart with all data sets and all scales of a registry, and any of its marks and axes, has no
dangling references, if what calls took on trust was registered as well
(`Bench.no_danglingReferences`).
-/

namespace ChartSpec

/-- A registry whose axes and marks use registered scales, and whose groups hold registered
parts. -/
structure Registry.Closed (r : Registry) : Prop where
  axes : ∀ a ∈ r.axes, a.scaleNames ⊆ r.scaleNames
  marks : ∀ m ∈ r.marks, m.IsClosed r

/-! ## Lemmas -/

theorem Registry.Closed.add {r r' : Registry} {k : PartKind} {d : k.Draft} {made : k.Made}
    (h : r.Closed) (hd : k.IsClosed r d) (hadd : k.add r d = .ok (r', made)) : r'.Closed := by
  have hgrows := PartKind.grows_add hadd
  have haxes : ∀ a ∈ r.axes, a.scaleNames ⊆ r'.scaleNames :=
    fun a ha => List.Subset.trans (h.axes a ha) hgrows.scaleNames_subset
  have hmarks : ∀ m ∈ r.marks, m.IsClosed r' := fun m hm => (h.marks m hm).grows hgrows
  cases k with
  | data =>
    obtain ⟨-, -, rfl, -⟩ := addData_eq_ok.1 hadd
    exact ⟨haxes, hmarks⟩
  | scale =>
    obtain ⟨-, -, rfl, -⟩ := addScale_eq_ok.1 hadd
    exact ⟨haxes, hmarks⟩
  | mark =>
    obtain ⟨-, -, rfl, -⟩ := addMark_eq_ok.1 hadd
    refine ⟨haxes, ?_⟩
    intro m hm
    rcases List.mem_append.1 hm with hm | hm
    · exact hmarks m hm
    · rw [List.mem_singleton.1 hm]
      exact PartKind.isClosed_grows (k := .mark) hd hgrows
  | axis =>
    obtain ⟨hfinish, rfl⟩ := addAxis_eq_ok.1 hadd
    refine ⟨?_, hmarks⟩
    intro a ha
    rcases List.mem_append.1 ha with ha | ha
    · exact haxes a ha
    · rw [List.mem_singleton.1 ha, AxisDraft.scaleNames_finish hfinish]
      exact hd

theorem kept_closed : Kept PartKind.UsesOwn Registry.Closed PartKind.IsClosed where
  empty := ⟨by simp, by simp⟩
  start r k seed := PartKind.isClosed_start k seed
  call r k d d' c _ hd hcall h := PartKind.isClosed_apply hcall hd h
  add r r' k d made hr hd h := hr.add hd h
  transform r r' kind properties t hr h := by
    have hgrows := Registry.grows_buildTransform h
    obtain ⟨-, -, rfl⟩ := Registry.buildTransform_eq_ok.1 h
    exact ⟨hr.axes, fun m hm => (hr.marks m hm).grows hgrows⟩
  grows r r' k d h hd := PartKind.isClosed_grows hd h

theorem Bench.closed_run {moves : List Move} (h : ({} : Bench).Allows PartKind.UsesOwn moves) :
    (run {} moves).registry.Closed :=
  kept_closed.run h kept_closed.empty (by simp)

section

variable {r : Registry} {marks : List Mark}

/-- Marks of a closed registry use registered scales, however deep in groups, and the scopes
around the groups are around each use. -/
theorem Registry.Closed.scaleUses (h : r.Closed) (hmarks : marks ⊆ r.marks)
    {scopes : List (List Scale)} {u : ScaleUse} (hu : u ∈ marksScaleUses scopes marks) :
    u.name ∈ r.scaleNames ∧ scopes ⊆ u.scopes := by
  induction marks using marks_induction generalizing scopes with
  | nil => cases hu
  | plain m type hplain rest hbody ih =>
    obtain ⟨hm, hrest⟩ := List.cons_subset.1 hmarks
    rw [marksScaleUses_plain scopes rest hbody, List.mem_append] at hu
    rcases hu with hu | hu
    · obtain ⟨hname, hscopes⟩ := mem_usesIn.1 hu
      exact ⟨(h.marks m hm).scaleNames hname, hscopes ▸ List.Subset.refl _⟩
    · exact ih hrest hu
  | group m scales axes marks rest hbody ihMarks ihRest =>
    obtain ⟨hm, hrest⟩ := List.cons_subset.1 hmarks
    obtain ⟨-, haxes, hinner⟩ := (h.marks m hm).contents scales axes marks hbody
    have hinside : scopes ⊆ scopes ++ [scales] := List.subset_append_left _ _
    rw [marksScaleUses_group scopes rest hbody] at hu
    simp only [List.mem_append, List.mem_flatMap] at hu
    rcases hu with (hu | ⟨a, ha, hu⟩ | hu) | hu
    · obtain ⟨hname, hscopes⟩ := mem_usesIn.1 hu
      exact ⟨(h.marks m hm).scaleNames hname, hscopes ▸ List.Subset.refl _⟩
    · obtain ⟨hname, hscopes⟩ := mem_usesIn.1 hu
      exact ⟨h.axes a (haxes ha) hname, hscopes ▸ hinside⟩
    · obtain ⟨hname, hscopes⟩ := ihMarks hinner hu
      exact ⟨hname, List.Subset.trans hinside hscopes⟩
    · exact ihRest hrest hu

/-- Marks of a closed and sound registry refer to registered data sets, however deep in groups. -/
theorem Registry.Closed.dataNames (h : r.Closed) (hr : r.Sound) (hmarks : marks ⊆ r.marks) :
    marksDataNames marks ⊆ r.dataNames := by
  induction marks using marks_induction with
  | nil => exact List.nil_subset _
  | plain m type hplain rest hbody ih =>
    obtain ⟨hm, hrest⟩ := List.cons_subset.1 hmarks
    rw [marksDataNames_plain rest hbody]
    exact List.append_subset.2 ⟨hr.marks m hm, ih hrest⟩
  | group m scales axes marks rest hbody ihMarks ihRest =>
    obtain ⟨hm, hrest⟩ := List.cons_subset.1 hmarks
    obtain ⟨hscales, -, hinner⟩ := (h.marks m hm).contents scales axes marks hbody
    have hdefined : scales.flatMap Scale.dataNames ⊆ r.dataNames :=
      flatMap_subset.2 fun s hs => hr.scales s (hscales hs)
    rw [marksDataNames_group rest hbody]
    exact List.append_subset.2 ⟨List.append_subset.2 ⟨hr.marks m hm,
      List.append_subset.2 ⟨hdefined, ihMarks hinner⟩⟩, ihRest hrest⟩

end

namespace Visualization

theorem missingData_eq_nil {v : Visualization} (h : v.dataNames ⊆ v.data.map Data.name) :
    v.missingData = [] := by
  have hnone : v.dataNames.filter (fun n => !v.data.any fun d => d.name == n) = [] := by
    rw [List.filter_eq_nil_iff]
    intro n hn
    obtain ⟨d, hd, hname⟩ := List.mem_map.1 (h hn)
    simpa using ⟨d, hd, hname⟩
  rw [missingData, hnone]
  rfl

theorem missingScales_eq_nil {v : Visualization}
    (h : ∀ u ∈ v.scaleUses, u.name ∈ v.scales.map Scale.name ∧ v.scales ∈ u.scopes) :
    v.missingScales = [] := by
  have hnone : v.scaleUses.filter (fun u => !u.isBound) = [] := by
    rw [List.filter_eq_nil_iff]
    intro u hu
    obtain ⟨hname, hscopes⟩ := h u hu
    obtain ⟨s, hs, hname⟩ := List.mem_map.1 hname
    have hbound : u.isBound = true := u.isBound_iff.2 ⟨v.scales, hscopes, s, hs, hname⟩
    simp [hbound]
  rw [missingScales, hnone]
  rfl

end Visualization

/-! ## Top theorem -/

/-- Suppose that each scale which is used as itself, and each part which is put into a group, has
been registered at the bench before.  Then a chart of all registered data sets and scales, and of
any registered marks and axes, has no dangling references. -/
theorem Bench.no_danglingReferences {moves : List Move}
    (hown : ({} : Bench).Allows PartKind.UsesOwn moves) {v : Visualization}
    (hdata : ∀ d, d ∈ v.data ↔ d ∈ (run {} moves).registry.data)
    (hscales : ∀ s, s ∈ v.scales ↔ s ∈ (run {} moves).registry.scales)
    (hmarks : v.marks ⊆ (run {} moves).registry.marks)
    (haxes : v.axes ⊆ (run {} moves).registry.axes) : v.danglingReferences = .ok [] := by
  have hsound := sound_run moves
  have hclosed := closed_run hown
  have hdataNames : (run {} moves).registry.dataNames ⊆ v.data.map Data.name :=
    List.map_subset _ fun d hd => (hdata d).2 hd
  have hscaleNames : (run {} moves).registry.scaleNames ⊆ v.scales.map Scale.name :=
    List.map_subset _ fun s hs => (hscales s).2 hs
  have hrefs : v.dataNames ⊆ v.data.map Data.name := by
    refine List.Subset.trans ?_ hdataNames
    rw [Visualization.dataNames, List.append_subset, List.append_subset]
    refine ⟨⟨?_, ?_⟩, hclosed.dataNames hsound hmarks⟩
    · refine flatMap_subset.2 fun d hd => ?_
      obtain ⟨before, after, hsplit⟩ := List.append_of_mem ((hdata d).1 hd)
      refine List.Subset.trans (hsound.data.earlier before d after hsplit) ?_
      rw [Registry.dataNames, hsplit, List.map_append]
      exact List.subset_append_left _ _
    · exact flatMap_subset.2 fun s hs => hsound.scales s ((hscales s).1 hs)
  have huses : ∀ u ∈ v.scaleUses, u.name ∈ v.scales.map Scale.name ∧ v.scales ∈ u.scopes := by
    intro u hu
    rw [Visualization.scaleUses, List.mem_append, List.mem_flatMap] at hu
    rcases hu with ⟨a, ha, hu⟩ | hu
    · obtain ⟨hname, hscopes⟩ := mem_usesIn.1 hu
      exact ⟨hscaleNames (hclosed.axes a (haxes ha) hname), hscopes ▸ List.mem_singleton_self _⟩
    · obtain ⟨hname, hscopes⟩ := hclosed.scaleUses hmarks hu
      exact ⟨hscaleNames hname, hscopes (List.mem_singleton_self _)⟩
  rw [v.danglingReferences_eq, Visualization.missingData_eq_nil hrefs,
    Visualization.missingScales_eq_nil huses]
  rfl

namespace Bench

/-- A symbol mark and an axis that use a scale over a data set, the scale as itself.  The scale
and the data set, like the mark and a group, are on the way at the same time. -/
def symbolMoves : List Move := [
  .start .data "table",
  .start .scale ("x", .linear),
  .call .data 0 (.values (.arr [.obj [("price", .int 1)]])),
  .finish .data 0,
  .call .scale 0 (.domain (.reference "table.price")),
  .finish .scale 0,
  .start .axis .x,
  .start .mark .symbol,
  .start .mark .group,
  .call .axis 0 (.scale (.object "x")),
  .finish .axis 0,
  .call .mark 0 (.fromData "table"),
  .call .mark 0 (.style .enter
    [{ key := .channel .x, value := { field := some "price", scale := some (.object "x") } }]),
  .finish .mark 0]

/-- Then all that has been registered goes into the group. -/
def groupMoves : List Move := symbolMoves ++ [
  .call .mark 0 (.scales (run {} symbolMoves).registry.scales),
  .call .mark 0 (.axes (run {} symbolMoves).registry.axes),
  .call .mark 0 (.marks (run {} symbolMoves).registry.marks),
  .finish .mark 0]

theorem allows_groupMoves : ({} : Bench).Allows PartKind.UsesOwn groupMoves := by
  rw [groupMoves, allows_append]
  constructor
  · simp only [symbolMoves, Allows, Move.IsAllowed, PartKind.UsesOwn, true_and, and_true]
    refine ⟨?_, trivial, ?_⟩
    · show "x" ∈ _
      decide
    · intro e he s hs
      cases List.mem_singleton.1 he
      cases hs
      show "x" ∈ _
      decide
  · exact ⟨List.Subset.refl _, List.Subset.refl _, List.Subset.refl _, trivial, trivial⟩

/-- The group with the symbol mark, the axis and the scale inside. -/
theorem no_danglingReferences_group :
    (run {} groupMoves).registry.marks.map Mark.type = [.symbol, .group] ∧
      Visualization.danglingReferences {
        width := 200
        height := 100
        viewport := ⟨200, 100⟩
        padding := .uniform 0
        data := (run {} groupMoves).registry.data
        scales := (run {} groupMoves).registry.scales
        marks := (run {} groupMoves).registry.marks.drop 1 } = .ok [] := by
  refine ⟨by decide, ?_⟩
  exact no_danglingReferences allows_groupMoves (fun d => Iff.rfl) (fun s => Iff.rfl)
    (List.drop_subset _ _) (List.nil_subset _)

end Bench

end ChartSpec
