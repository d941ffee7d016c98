import ChartSpec.Proofs.Bench
import ChartSpec.Proofs.Collected
import ChartSpec.Proofs.Mark.Calls
import ChartSpec.Proofs.Mark.Styling

/-!
# Scales that drafts use

A scale that is used by its name must be registered.  A scale that is used as itself is trusted,
and so are the contents of groups.  If what is trusted has been registered as well, a draft uses
registered scales only and holds registered parts only (`PartKind.isClosed_apply`).
-/

namespace ChartSpec

/-! ## Calls that use parts of their own context -/

/-- A scale that is given as itself is registered under its name. -/
def ScaleReference.UsesOwn (r : Registry) : ScaleReference → Prop
  | .name _ => True
  | .object key => key ∈ r.scaleNames

def ValueSpec.UsesOwn (r : Registry) (v : ValueSpec) : Prop := ∀ s ∈ v.scale, s.UsesOwn r

def MarkCall.UsesOwn (r : Registry) : MarkCall → Prop
  | .style _ edits => ∀ e ∈ edits, e.value.UsesOwn r
  | .delay value => value.UsesOwn r
  | .scales new => new ⊆ r.scales
  | .axes new => new ⊆ r.axes
  | .marks new => new ⊆ r.marks
  | _ => True

def AxisCall.UsesOwn (r : Registry) : AxisCall → Prop
  | .scale s => s.UsesOwn r
  | .style _ edits => ∀ e ∈ edits, e.value.UsesOwn r
  | _ => True

/-- Scales that are used as themselves and parts that are put into groups are registered. -/
def PartKind.UsesOwn (r : Registry) : (k : PartKind) → k.Call → Prop
  | .data => fun _ => True
  | .scale => fun _ => True
  | .mark => MarkCall.UsesOwn r
  | .axis => AxisCall.UsesOwn r

/-! ## Closed parts -/

/-- The scales that an axis on the way uses. -/
def AxisDraft.scaleNames (a : AxisDraft) : List String :=
  a.scale.toList ++ a.settings.parts.flatMap fun p => p.2.scaleNames

/-- A mark that uses registered scales and holds registered parts. -/
structure Mark.IsClosed (r : Registry) (m : Mark) : Prop where
  scaleNames : m.scaleNames ⊆ r.scaleNames
  contents : ∀ scales axes marks, m.body = .group scales axes marks →
    scales ⊆ r.scales ∧ axes ⊆ r.axes ∧ marks ⊆ r.marks

/-- A draft that uses registered scales and holds registered parts. -/
def PartKind.IsClosed (r : Registry) : (k : PartKind) → k.Draft → Prop
  | .data => fun _ => True
  | .scale => fun _ => True
  | .mark => Mark.IsClosed r
  | .axis => fun a => a.scaleNames ⊆ r.scaleNames

/-! ## Lemmas -/

section

variable {α β : Type} {ys : List β}

theorem flatMap_subset {xs : List α} {f : α → List β} :
    xs.flatMap f ⊆ ys ↔ ∀ x ∈ xs, f x ⊆ ys := by
  simp only [List.subset_def, List.mem_flatMap]
  constructor
  · intro h x hx b hb
    exact h ⟨x, hx, hb⟩
  · rintro h b ⟨x, hx, hb⟩
    exact h x hx hb

theorem optionToList_subset {x : Option β} : x.toList ⊆ ys ↔ ∀ b ∈ x, b ∈ ys := by
  cases x <;> simp

end

variable {r r' : Registry}

/-! ### Values and stylings -/

theorem ScaleReference.mem_of_resolve {s : ScaleReference} {name : String} (hs : s.UsesOwn r)
    (h : s.resolve r = .ok name) : name ∈ r.scaleNames := by
  cases s with
  | name key =>
    simp only [resolve, map_eq_ok, Registry.expectScale_eq_ok] at h
    obtain ⟨scale, hscale, rfl⟩ := h
    exact List.mem_map_of_mem (Registry.mem_of_findScale? hscale).1
  | object key =>
    cases h
    exact hs

theorem ValueSpec.scale_of_resolve {fields : FieldSet} {v : ValueSpec} {w : ValueRef}
    (hv : v.UsesOwn r) (h : v.resolve r fields = .ok w) : ∀ n ∈ w.scale, n ∈ r.scaleNames := by
  obtain ⟨scale, _, _, hscale, -, -, rfl⟩ := resolve_eq_ok.1 h
  rintro n rfl
  cases hs : v.scale with
  | none =>
    rw [hs, Option.mapM_none] at hscale
    cases hscale
  | some s =>
    rw [hs, Option.mapM_some] at hscale
    obtain ⟨_, hname, heq⟩ := functorMap_eq_ok.1 hscale
    cases heq
    exact ScaleReference.mem_of_resolve (hv s hs) hname

namespace Styling

variable {s s' : Styling}

theorem scaleNames_set {names : List String} {c : Channel} {v : ValueRef}
    (hs : s.scaleNames ⊆ names) (hv : ∀ n ∈ v.scale, n ∈ names) :
    (s.set c v).scaleNames ⊆ names := by
  intro n hn
  obtain ⟨c', w, hw, hname⟩ := mem_scaleNames.1 hn
  simp only [set] at hw
  split at hw
  · cases hw
    exact hv n hname
  · exact hs (mem_scaleNames.2 ⟨c', w, hw, hname⟩)

theorem scaleNames_ofEdits {type : Option MarkType} {fields : FieldSet}
    {edits : List ChannelEdit} (hedits : ∀ e ∈ edits, e.value.UsesOwn r)
    (h : ofEdits r type fields edits = .ok s) : s.scaleNames ⊆ r.scaleNames := by
  have hempty : empty.scaleNames ⊆ r.scaleNames := by
    intro n hn
    obtain ⟨_, _, hc, -⟩ := mem_scaleNames.1 hn
    cases hc
  refine foldlM_induction (P := fun s => s.scaleNames ⊆ r.scaleNames) h hempty ?_
  intro e he s₁ s₂ hs₁ hedit
  rcases edit_eq_ok.1 hedit with hset | ⟨-, -, rfl⟩
  · obtain ⟨c, w, -, -, hw, rfl⟩ := setKey_eq_ok.1 hset
    exact scaleNames_set hs₁ (ValueSpec.scale_of_resolve (hedits e he) hw)
  · exact hs₁

end Styling

/-! ### Marks -/

theorem MarkStates.mem_stylings_set {states : MarkStates} {s t : Styling} {state : MarkState}
    (h : t ∈ (states.set s state).stylings) : t = s ∨ t ∈ states.stylings := by
  simp only [stylings, List.mem_append, Option.mem_toList] at h ⊢
  cases state <;> simp only [set, Option.some.injEq, eq_comm] at h ⊢ <;> tauto

namespace Mark

variable {m m' : Mark}

theorem scaleNames_subset_iff {names : List String} :
    m.scaleNames ⊆ names ↔ (∀ s ∈ m.states.stylings, s.scaleNames ⊆ names) ∧
      ∀ v ∈ m.delay, ∀ n ∈ v.scale, n ∈ names := by
  have hdelay : (m.delay.bind ValueRef.scale).toList ⊆ names ↔
      ∀ v ∈ m.delay, ∀ n ∈ v.scale, n ∈ names := by
    cases m.delay with
    | none => simp
    | some v => exact optionToList_subset.trans (by simp)
  rw [scaleNames, List.append_subset, flatMap_subset, hdelay]

theorem scaleNames_ofType (type : MarkType) : (ofType type).scaleNames = [] := rfl

theorem isClosed_ofType (type : MarkType) : (ofType type).IsClosed r := by
  constructor
  · rw [scaleNames_ofType]
    exact List.nil_subset _
  · intro scales axes marks hbody
    rw [ofType, Body.ofType] at hbody
    split at hbody
    · cases hbody
      simp
    · cases hbody

/-- Changes to a mark that leave its contents and its scales alone leave it closed. -/
theorem IsClosed.of_same (hm : m.IsClosed r) (hbody : m'.body = m.body)
    (hnames : m'.scaleNames = m.scaleNames) : m'.IsClosed r := by
  constructor
  · rw [hnames]
    exact hm.scaleNames
  · rw [hbody]
    exact hm.contents

theorem isClosed_apply {call : MarkCall} (hcall : call.UsesOwn r) (hm : m.IsClosed r)
    (h : m.apply r call = .ok m') : m'.IsClosed r := by
  cases call with
  | style state edits =>
    obtain ⟨s, hs, rfl⟩ := apply_style.1 h
    obtain ⟨hstyled, hdelay⟩ := scaleNames_subset_iff.1 hm.scaleNames
    refine ⟨scaleNames_subset_iff.2 ⟨?_, hdelay⟩, hm.contents⟩
    intro t ht
    rcases MarkStates.mem_stylings_set ht with rfl | ht
    · exact Styling.scaleNames_ofEdits hcall hs
    · exact hstyled t ht
  | delay value =>
    obtain ⟨v, hv, rfl⟩ := apply_delay.1 h
    obtain ⟨hstyled, -⟩ := scaleNames_subset_iff.1 hm.scaleNames
    refine ⟨scaleNames_subset_iff.2 ⟨hstyled, ?_⟩, hm.contents⟩
    rintro _ ⟨⟩
    exact ValueSpec.scale_of_resolve hcall hv
  | scales new =>
    obtain ⟨scales, axes, marks, hbody, rfl⟩ := apply_scales.1 h
    obtain ⟨hscales, hrest⟩ := hm.contents scales axes marks hbody
    refine ⟨hm.scaleNames, ?_⟩
    rintro _ _ _ ⟨⟩
    exact ⟨List.append_subset.2 ⟨hscales, hcall⟩, hrest⟩
  | axes new =>
    obtain ⟨scales, axes, marks, hbody, rfl⟩ := apply_axes.1 h
    obtain ⟨hscales, haxes, hmarks⟩ := hm.contents scales axes marks hbody
    refine ⟨hm.scaleNames, ?_⟩
    rintro _ _ _ ⟨⟩
    exact ⟨hscales, List.append_subset.2 ⟨haxes, hcall⟩, hmarks⟩
  | marks new =>
    obtain ⟨scales, axes, marks, hbody, rfl⟩ := apply_marks.1 h
    obtain ⟨hscales, haxes, hmarks⟩ := hm.contents scales axes marks hbody
    refine ⟨hm.scaleNames, ?_⟩
    rintro _ _ _ ⟨⟩
    exact ⟨hscales, haxes, List.append_subset.2 ⟨hmarks, hcall⟩⟩
  | name | description | key =>
    cases h
    exact hm.of_same rfl rfl
  | fromData name =>
    obtain ⟨-, d, -, rfl⟩ := apply_fromData.1 h
    exact hm.of_same rfl rfl
  | within group =>
    obtain ⟨-, -, rfl⟩ := apply_within.1 h
    exact hm.of_same rfl rfl
  | fromTransform t =>
    obtain ⟨_, _, -, rfl⟩ := apply_fromTransform.1 h
    exact hm.of_same rfl rfl
  | ease easing =>
    obtain ⟨-, rfl⟩ := apply_ease.1 h
    exact hm.of_same rfl rfl

theorem IsClosed.grows (hm : m.IsClosed r) (h : r.Grows r') : m.IsClosed r' := by
  refine ⟨List.Subset.trans hm.scaleNames h.scaleNames_subset, ?_⟩
  intro scales axes marks hbody
  obtain ⟨hscales, haxes, hmarks⟩ := hm.contents scales axes marks hbody
  exact ⟨List.Subset.trans hscales h.scales.subset, List.Subset.trans haxes h.axes.subset,
    List.Subset.trans hmarks h.marks.subset⟩

end Mark

/-! ### Axes -/

namespace AxisDraft

variable {a a' : AxisDraft}

theorem scaleNames_subset_iff {names : List String} :
    a.scaleNames ⊆ names ↔
      (∀ n ∈ a.scale, n ∈ names) ∧ ∀ p ∈ a.settings.parts, p.2.scaleNames ⊆ names := by
  rw [scaleNames, List.append_subset, flatMap_subset, optionToList_subset]

theorem scaleNames_apply {call : AxisCall} (hcall : call.UsesOwn r)
    (ha : a.scaleNames ⊆ r.scaleNames) (h : a.apply r call = .ok a') :
    a'.scaleNames ⊆ r.scaleNames := by
  cases call with
  | scale s =>
    simp only [apply, bind_eq_ok, inPlace_eq_ok, pure_eq_ok] at h
    obtain ⟨name, hname, rfl⟩ := h
    obtain ⟨-, hparts⟩ := scaleNames_subset_iff.1 ha
    refine scaleNames_subset_iff.2 ⟨?_, hparts⟩
    rintro _ ⟨⟩
    exact ScaleReference.mem_of_resolve hcall hname
  | style part edits =>
    simp only [apply, setting, bind_eq_ok] at h
    obtain ⟨s, hs, h⟩ := h
    cases h
    obtain ⟨hscale, hparts⟩ := scaleNames_subset_iff.1 ha
    refine scaleNames_subset_iff.2 ⟨hscale, ?_⟩
    intro p hp
    rcases Entries.mem_put hp with rfl | hp
    · exact Styling.scaleNames_ofEdits hcall hs
    · exact hparts p hp
  | orient o =>
    rw [apply] at h
    split at h
    · cases h
      exact ha
    · cases h
  | values vs =>
    simp only [apply, setting, bind_eq_ok] at h
    obtain ⟨_, -, h⟩ := h
    cases h
    exact ha
  | format | ticks | subdivide | tickPadding | tickSize | tickSizeMajor | tickSizeMinor |
      tickSizeEnd | offset | title | titleWithOffset | grid | layer =>
    cases h
    exact ha

theorem scaleNames_finish {axis : Axis} (h : a.finish = .ok axis) :
    axis.scaleNames = a.scaleNames := by
  rw [finish] at h
  split at h
  · rename_i scale hscale
    cases h
    rw [scaleNames, hscale]
    rfl
  · cases h

end AxisDraft

/-! ## Top theorem -/

namespace PartKind

theorem isClosed_start (k : PartKind) (seed : k.Seed) : k.IsClosed r (k.start seed) := by
  cases k with
  | data => trivial
  | scale => trivial
  | mark => exact Mark.isClosed_ofType seed
  | axis => exact List.nil_subset _

/-- A closed draft stays closed under calls that use parts of their own context. -/
theorem isClosed_apply {k : PartKind} {d d' : k.Draft} {call : k.Call} (hcall : k.UsesOwn r call)
    (hd : k.IsClosed r d) (h : k.apply r d call = .ok d') : k.IsClosed r d' := by
  cases k with
  | data => trivial
  | scale => trivial
  | mark => exact Mark.isClosed_apply hcall hd h
  | axis => exact AxisDraft.scaleNames_apply hcall hd h

theorem isClosed_grows {k : PartKind} {d : k.Draft} (hd : k.IsClosed r d) (h : r.Grows r') :
    k.IsClosed r' d := by
  cases k with
  | data => trivial
  | scale => trivial
  | mark => exact Mark.IsClosed.grows hd h
  | axis => exact List.Subset.trans hd h.scaleNames_subset

end PartKind

end ChartSpec
