import ChartSpec.Proofs.Bench
import ChartSpec.Proofs.Collected
import ChartSpec.Proofs.Data.Calls
import ChartSpec.Proofs.Mark.Calls
import ChartSpec.Proofs.Scale.Fields
import ChartSpec.Proofs.Transform.Attach

/-!
# Data sets that drafts refer to

A call lets a draft refer to a data set only if the data set is registered at that moment, in
whatever way the reference is given (`PartKind.dataNames_apply`).
-/

namespace ChartSpec

/-- A value that refers to data sets of these names, if to any. -/
def ScaleValue.RefersIn (names : List String) (v : ScaleValue) : Prop :=
  ∀ ref ∈ v.dataRef?, ref.data ∈ names

/-- A scale whose domain, bounds and range refer to data sets of these names. -/
def Scale.RefersIn (names : List String) (s : Scale) : Prop := ∀ v ∈ s.scaleValues, v.RefersIn names

/-- The data sets that a draft refers to.  Axes refer to none. -/
def PartKind.dataNames : (k : PartKind) → k.Draft → List String
  | .data => Data.dataNames
  | .scale => Scale.dataNames
  | .mark => Mark.dataNames
  | .axis => fun _ => []

/-! ## Lemmas -/

variable {r : Registry}

theorem Transform.sources_subset {t t' : Transform} {fields fields' : FieldSet}
    (h : t.attach r.known fields = .ok (t', fields')) : t'.sources ⊆ r.dataNames :=
  fun n hn => Registry.isSome_known.1 (known_of_attach h n hn)

/-! ### Data sets -/

namespace Data

variable {d d' : Data}

theorem dataNames_setSource {name : String} (hd : d.dataNames ⊆ r.dataNames)
    (h : d.setSource r name = .ok d') : d'.dataNames ⊆ r.dataNames := by
  obtain ⟨-, source, hsource, rfl⟩ := setSource_eq_ok.1 h
  have hname := Registry.mem_dataNames_of_findData? hsource
  exact List.cons_subset.2 ⟨hname, List.Subset.trans (List.subset_append_right _ _) hd⟩

theorem dataNames_addTransform {t : Transform} (hd : d.dataNames ⊆ r.dataNames)
    (h : d.addTransform r t = .ok d') : d'.dataNames ⊆ r.dataNames := by
  obtain ⟨t', fields', hattach, rfl⟩ := addTransform_eq_ok.1 h
  have hnew := Transform.sources_subset hattach
  rw [dataNames, List.append_subset] at hd ⊢
  refine ⟨hd.1, ?_⟩
  rw [List.flatMap_append, List.flatMap_singleton, List.append_subset]
  exact ⟨hd.2, hnew⟩

theorem dataNames_apply {call : DataCall} (hd : d.dataNames ⊆ r.dataNames)
    (h : d.apply r call = .ok d') : d'.dataNames ⊆ r.dataNames := by
  rcases apply_frame h with hsets | ⟨-, hsource, htransforms, -⟩
  · cases call with
    | source name => exact dataNames_setSource hd h
    | transform t => exact dataNames_addTransform hd h
    | transforms ts =>
      rw [apply] at h
      exact foldlM_induction (P := fun d => d.dataNames ⊆ r.dataNames) h hd
        fun t _ c c' hc => dataNames_addTransform hc
    | values | valuesText | url | format => cases hsets
  · rw [dataNames, hsource, htransforms]
    exact hd

end Data

/-! ### Scales -/

namespace ScaleValue

variable {names : List String}

theorem refersIn_ref {ref : DataRef} (h : ref.data ∈ names) :
    (ScaleValue.ref ref).RefersIn names := by
  rintro _ ⟨⟩
  exact h

theorem refersIn_values (vs : List Json) : (ScaleValue.values vs).RefersIn names := by
  rintro _ ⟨⟩

theorem refersIn_literal (v : Json) : (ScaleValue.literal v).RefersIn names := by
  rintro _ ⟨⟩

end ScaleValue

namespace Registry

theorem data_of_resolveReference {token data field : String}
    (h : r.resolveReference token = .ok (data, field)) : data ∈ r.dataNames := by
  simp only [resolveReference, bind_eq_ok, pure_eq_ok, expectData_eq_ok, Prod.mk.injEq] at h
  obtain ⟨d, hd, rfl, -⟩ := h
  exact List.mem_map_of_mem (mem_of_findData? hd).1

theorem data_of_resolveDataRef {token : String} {ref : DataRef}
    (h : r.resolveDataRef token = .ok ref) : ref.data ∈ r.dataNames := by
  simp only [resolveDataRef, map_eq_ok] at h
  obtain ⟨⟨data, field⟩, hp, rfl⟩ := h
  exact data_of_resolveReference hp

theorem refersIn_resolveDomain {input : ScaleInput} {v : ScaleValue}
    (h : r.resolveDomain input = .ok v) : v.RefersIn r.dataNames := by
  cases input with
  | reference token =>
    simp only [resolveDomain, map_eq_ok] at h
    obtain ⟨ref, href, rfl⟩ := h
    exact ScaleValue.refersIn_ref (data_of_resolveDataRef href)
  | data name =>
    simp only [resolveDomain, map_eq_ok, expectData_eq_ok] at h
    obtain ⟨d, hd, rfl⟩ := h
    exact ScaleValue.refersIn_ref (mem_dataNames_of_findData? hd)
  | values vs =>
    cases h
    exact ScaleValue.refersIn_values vs
  | literal v =>
    cases h
    exact ScaleValue.refersIn_literal v

theorem data_of_resolveFields {tokens : List String} {ref : DataRef}
    (h : r.resolveFields tokens = .ok ref) : ref.data ∈ r.dataNames := by
  obtain ⟨hne, data, fields, rfl, hfields⟩ := resolveFields_eq_ok.1 h
  cases hfields with
  | nil => exact absurd rfl hne
  | cons href _ =>
    have hdata := data_of_resolveDataRef href
    exact hdata

theorem yields_refersIn (r : Registry) :
    r.Yields (ScaleValue.RefersIn r.dataNames) (ScaleValue.RefersIn r.dataNames) where
  domain _ _ h := ⟨refersIn_resolveDomain h, refersIn_resolveDomain h⟩
  fields _ _ h := ScaleValue.refersIn_ref (data_of_resolveFields h)
  keyword _ := ScaleValue.refersIn_literal _

end Registry

namespace Scale

variable {s s' : Scale}

theorem dataNames_subset_iff {names : List String} :
    s.dataNames ⊆ names ↔ s.RefersIn names := by
  simp only [dataNames, dataRefs, List.subset_def, List.mem_map, List.mem_filterMap, RefersIn,
    ScaleValue.RefersIn, Option.mem_def]
  constructor
  · intro h v hv ref href
    exact h ⟨ref, ⟨v, hv, href⟩, rfl⟩
  · rintro h _ ⟨ref, ⟨v, hv, href⟩, rfl⟩
    exact h v hv ref href

theorem refersIn_apply {call : ScaleCall} (hs : s.RefersIn r.dataNames)
    (h : s.apply r call = .ok s') : s'.RefersIn r.dataNames :=
  forall_scaleValues.2 (hasValues_apply r.yields_refersIn (forall_scaleValues.1 hs) h)

end Scale

/-! ### Marks -/

namespace Mark

variable {m m' : Mark}

/-- The origin of a mark that has none is empty. -/
theorem dataNames_eq (m : Mark) :
    m.dataNames = (m.origin.getD {}).data.toList ++
      (m.origin.getD {}).transforms.flatMap Transform.sources := by
  rw [dataNames]
  cases m.origin <;> rfl

theorem dataNames_apply {call : MarkCall} (hm : m.dataNames ⊆ r.dataNames)
    (h : m.apply r call = .ok m') : m'.dataNames ⊆ r.dataNames := by
  cases call with
  | fromData name =>
    obtain ⟨-, d, hd, rfl⟩ := apply_fromData.1 h
    have hname := Registry.mem_dataNames_of_findData? hd
    rw [dataNames_eq, List.append_subset] at hm
    exact List.cons_subset.2 ⟨hname, hm.2⟩
  | fromTransform t =>
    obtain ⟨t', fields, hattach, rfl⟩ := apply_fromTransform.1 h
    have hnew := Transform.sources_subset hattach
    rw [dataNames_eq, List.append_subset] at hm
    rw [dataNames_eq, Option.getD_some, List.flatMap_append, List.flatMap_singleton]
    exact List.append_subset.2 ⟨hm.1, List.append_subset.2 ⟨hm.2, hnew⟩⟩
  | name | description | key =>
    cases h
    exact hm
  | within group =>
    obtain ⟨-, -, rfl⟩ := apply_within.1 h
    exact hm
  | style state edits =>
    obtain ⟨_, -, rfl⟩ := apply_style.1 h
    exact hm
  | delay value =>
    obtain ⟨_, -, rfl⟩ := apply_delay.1 h
    exact hm
  | ease easing =>
    obtain ⟨-, rfl⟩ := apply_ease.1 h
    exact hm
  | scales new =>
    obtain ⟨_, _, _, -, rfl⟩ := apply_scales.1 h
    exact hm
  | axes new =>
    obtain ⟨_, _, _, -, rfl⟩ := apply_axes.1 h
    exact hm
  | marks new =>
    obtain ⟨_, _, _, -, rfl⟩ := apply_marks.1 h
    exact hm

end Mark

/-! ## Top theorem -/

namespace PartKind

theorem dataNames_start (k : PartKind) (seed : k.Seed) : k.dataNames (k.start seed) = [] := by
  cases k <;> rfl

/-- A draft that refers to registered data sets only still does after any call. -/
theorem dataNames_apply {k : PartKind} {d d' : k.Draft} {call : k.Call}
    (hd : k.dataNames d ⊆ r.dataNames) (h : k.apply r d call = .ok d') :
    k.dataNames d' ⊆ r.dataNames := by
  cases k with
  | data => exact Data.dataNames_apply hd h
  | scale =>
    have href := Scale.dataNames_subset_iff.1 hd
    exact Scale.dataNames_subset_iff.2 (Scale.refersIn_apply href h)
  | mark => exact Mark.dataNames_apply hd h
  | axis => exact List.nil_subset _

end PartKind

end ChartSpec
