import ChartSpec.Proofs.Axis.Parts
import ChartSpec.Proofs.Json.Leaves

/-!
# Tick values of axes

The tick values of an axis are given as one list, as several values, or as lists in lists: what
counts are the leaves.  They are refused if there is no leaf, and no other call changes them
(`AxisDraft.values_apply`).  So the values of a built axis are leaves, and they come out again if
they are given once more, with brackets or without (`Axis.values_leaves`).
-/

namespace ChartSpec

/-- The tick values, if there are any, are one or more leaves. -/
def AxisSettings.HasLeaves (s : AxisSettings) : Prop :=
  ∀ vs, s.values = some vs → vs ≠ [] ∧ ∀ v ∈ vs, v.isArray = false

namespace AxisDraft

/-- Sets the tick values. -/
def withValues (a : AxisDraft) (vs : List Json) : AxisDraft :=
  { a with settings := { a.settings with values := some vs } }

/-- Makes a call beside the registry of its moment. -/
def applyBeside (a : AxisDraft) (step : Registry × AxisCall) : Except Error AxisDraft :=
  a.apply step.1 step.2

/-! ## Lemmas -/

variable {r : Registry} {a a' : AxisDraft}

theorem apply_values_eq_ok {args : List Json} :
    a.apply r (.values args) = .ok a' ↔
      Json.leavesOf args ≠ [] ∧ a' = a.withValues (Json.leavesOf args) := by
  simp only [apply, Arguments.atLeastOne, bind_eq_ok]
  cases Json.leavesOf args with
  | nil => simp
  | cons v rest => simp [setting, withValues, eq_comm]

/-- Values that are leaves already are set as they are, in brackets or without. -/
theorem apply_values_of_leaves {vs : List Json} (hne : vs ≠ [])
    (hleaves : ∀ v ∈ vs, v.isArray = false) :
    a.apply r (.values vs) = .ok (a.withValues vs) ∧
      a.apply r (.values [.arr vs]) = .ok (a.withValues vs) := by
  have hplain : Json.leavesOf vs = vs := Json.leavesOf_of_plain hleaves
  constructor
  · rw [apply_values_eq_ok, hplain]
    exact ⟨hne, rfl⟩
  · rw [apply_values_eq_ok, Json.leavesOf_arr, hplain]
    exact ⟨hne, rfl⟩

/-- A call sets the tick values to the leaves that it is given, or leaves them. -/
theorem values_apply {call : AxisCall} (h : a.apply r call = .ok a') :
    a'.settings.values = a.settings.values ∨
      ∃ args, call = .values args ∧ a'.settings.values = some (Json.leavesOf args) ∧
        Json.leavesOf args ≠ [] := by
  cases call with
  | values args =>
    obtain ⟨hne, rfl⟩ := apply_values_eq_ok.1 h
    exact .inr ⟨args, rfl, rfl, hne⟩
  | scale s =>
    simp only [apply, bind_eq_ok, pure_eq_ok] at h
    obtain ⟨name, -, rfl⟩ := h
    exact .inl rfl
  | style part edits =>
    simp only [apply, setting, bind_eq_ok] at h
    obtain ⟨s, -, h⟩ := h
    cases h
    exact .inl rfl
  | orient o =>
    rw [apply] at h
    split at h
    · cases h
      exact .inl rfl
    · cases h
  | format | ticks | subdivide | tickPadding | tickSize | tickSizeMajor | tickSizeMinor |
      tickSizeEnd | offset | title | titleWithOffset | grid | layer =>
    cases h
    exact .inl rfl

theorem hasLeaves_apply {call : AxisCall} (ha : a.settings.HasLeaves)
    (h : a.apply r call = .ok a') : a'.settings.HasLeaves := by
  intro vs hvs
  rcases values_apply h with hkept | ⟨args, -, hset, hne⟩
  · exact ha vs (hkept ▸ hvs)
  · obtain rfl : Json.leavesOf args = vs := Option.some.inj (hset.symm.trans hvs)
    exact ⟨hne, Json.isArray_of_mem_leavesOf⟩

theorem hasLeaves_run {type : AxisType} {steps : List (Registry × AxisCall)}
    (h : applyAll applyBeside { type } steps = .ok a) : a.settings.HasLeaves :=
  foldlM_induction (P := fun a => a.settings.HasLeaves) (applyAll_eq_ok.1 h) nofun
    fun _ _ _ _ => hasLeaves_apply

end AxisDraft

/-! ## Top theorem -/

/-- Flattening gives the leaves, each once and from left to right, and no list among them.  It goes
through lists of values piece by piece, changes nothing the second time, and does not look at
brackets.  An axis takes values exactly if there is a leaf among them, and then has the leaves.  The
values of a built axis, whose calls are made beside the registry of their moment, are one or more
leaves, and are what an axis gets that is given them as several values or as one list. -/
theorem Axis.values_leaves (args : List Json) :
    Enumerates (Json.LeafAt args) (Json.leavesOf args) ∧
    (∀ v ∈ Json.leavesOf args, v.isArray = false) ∧
    (∀ more, Json.leavesOf (args ++ more) = Json.leavesOf args ++ Json.leavesOf more) ∧
    Json.leavesOf (Json.leavesOf args) = Json.leavesOf args ∧
    (∀ other, Relation.EqvGen Json.Unwraps args other ↔
      Json.leavesOf args = Json.leavesOf other) ∧
    (∀ r (a : AxisDraft), ((∃ a', a.apply r (.values args) = .ok a') ↔
        ∃ path v, Json.LeafAt args path v) ∧
      ∀ a', a.apply r (.values args) = .ok a' → a' = a.withValues (Json.leavesOf args)) ∧
    ∀ type steps draft (last grown : Registry) (axis : Axis) vs,
      applyAll AxisDraft.applyBeside { type } steps = .ok draft →
      last.addAxis draft = .ok (grown, axis) → axis.settings.values = some vs →
      vs ≠ [] ∧ (∀ v ∈ vs, v.isArray = false) ∧
      ∀ r (a : AxisDraft), a.apply r (.values vs) = .ok (a.withValues vs) ∧
        a.apply r (.values [.arr vs]) = .ok (a.withValues vs) := by
  refine ⟨Json.enumerates_leavesOf args, Json.isArray_of_mem_leavesOf, Json.leavesOf_append args,
    Json.leavesOf_leavesOf args, fun _ => Json.eqvGen_unwraps_iff, ?_, ?_⟩
  · intro r a
    refine ⟨?_, fun a' h => (AxisDraft.apply_values_eq_ok.1 h).2⟩
    rw [← Json.leavesOf_ne_nil_iff]
    simp only [AxisDraft.apply_values_eq_ok, exists_and_left, exists_eq, and_true]
  · intro type steps draft last grown axis vs hrun hbuilt hvs
    obtain ⟨hfinish, -⟩ := Registry.addAxis_eq_ok.1 hbuilt
    have hkept : axis.settings = draft.settings := AxisDraft.settings_finish hfinish
    obtain ⟨hne, hleaves⟩ := AxisDraft.hasLeaves_run hrun vs (hkept ▸ hvs)
    exact ⟨hne, hleaves, fun _ _ => AxisDraft.apply_values_of_leaves hne hleaves⟩

/-- Values in lists in lists, an empty one among them, and a list that an object holds. -/
def Json.bracketed : List Json :=
  [.arr [.int 1, .arr [.arr [], .int 2]], .obj [("a", .arr [.int 3])]]

theorem Axis.values_leaves_bracketed :
    let leaves := [.int 1, .int 2, .obj [("a", .arr [.int 3])]]
    let draft : AxisDraft := { type := .x, scale := some "x", settings := { values := some leaves } }
    Json.leavesOf Json.bracketed = leaves ∧ Json.LeafAt Json.bracketed [0, 1, 1] (.int 2) ∧
    Relation.EqvGen Json.Unwraps Json.bracketed leaves ∧
    applyAll AxisDraft.applyBeside { type := .x }
      [({}, .scale (.object "x")), ({}, .values Json.bracketed)] = .ok draft ∧
    (∃ r axis, Registry.addAxis {} draft = .ok (r, axis) ∧ axis.settings.values = some leaves) ∧
    ∀ r (a : AxisDraft), a.apply r (.values leaves) = .ok (a.withValues leaves) ∧
      a.apply r (.values [.arr leaves]) = .ok (a.withValues leaves) := by
  intro leaves draft
  obtain ⟨-, -, -, -, hbrackets, -, hbuilt⟩ := values_leaves Json.bracketed
  have hrun : applyAll AxisDraft.applyBeside { type := .x }
      [({}, .scale (.object "x")), ({}, .values Json.bracketed)] = .ok draft := rfl
  obtain ⟨-, -, hagain⟩ := hbuilt .x _ draft {} _ _ leaves hrun rfl rfl
  exact ⟨rfl, .inside rfl (.inside rfl (.leaf rfl rfl)), (hbrackets leaves).2 rfl, hrun,
    ⟨_, _, rfl, rfl⟩, hagain⟩

end ChartSpec
