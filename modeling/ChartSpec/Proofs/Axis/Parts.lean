import ChartSpec.Proofs.Integrity

/-!
# Styled parts of axes

Styling a part of an axis again replaces its style.  So a built axis has one style for each part
that is styled (`Bench.partsDistinct_run`).
-/

namespace ChartSpec

/-- No part is styled twice. -/
def AxisSettings.PartsDistinct (s : AxisSettings) : Prop := (Entries.keys s.parts).Nodup

/-- What a draft of an axis keeps, and no other draft is asked. -/
def PartKind.PartsDistinct : (k : PartKind) → k.Draft → Prop
  | .data => fun _ => True
  | .scale => fun _ => True
  | .mark => fun _ => True
  | .axis => fun a => (AxisDraft.settings a).PartsDistinct

/-! ## Lemmas -/

namespace AxisDraft

variable {r : Registry} {a a' : AxisDraft}

theorem partsDistinct_apply {call : AxisCall} (ha : a.settings.PartsDistinct)
    (h : a.apply r call = .ok a') : a'.settings.PartsDistinct := by
  cases call with
  | scale s =>
    simp only [apply, bind_eq_ok, pure_eq_ok] at h
    obtain ⟨name, -, rfl⟩ := h
    exact ha
  | style part edits =>
    simp only [apply, setting, bind_eq_ok] at h
    obtain ⟨s, -, h⟩ := h
    cases h
    exact Entries.nodup_keys_put part s ha
  | orient o =>
    rw [apply] at h
    split at h
    · cases h
      exact ha
    · cases h
  | values vs =>
    simp only [apply, setting, bind_eq_ok] at h
    obtain ⟨_, -, h⟩ := h
    cases h
    exact ha
  | format | ticks | subdivide | tickPadding | tickSize | tickSizeMajor | tickSizeMinor |
      tickSizeEnd | offset | title | titleWithOffset | grid | layer =>
    cases h
    exact ha

theorem settings_finish {axis : Axis} (h : a.finish = .ok axis) : axis.settings = a.settings := by
  rw [finish] at h
  split at h
  · cases h
    rfl
  · cases h

end AxisDraft

theorem kept_partsDistinct : Kept (fun _ _ _ => True)
    (fun r => ∀ a ∈ r.axes, a.settings.PartsDistinct) (fun _ k => k.PartsDistinct) where
  empty := by simp
  start r k seed := by
    cases k with
    | axis => exact List.nodup_nil
    | data | scale | mark => trivial
  call r k d d' c _ hd _ h := by
    cases k with
    | axis => exact AxisDraft.partsDistinct_apply hd h
    | data | scale | mark => trivial
  add r r' k d made hr hd h := by
    cases k with
    | data =>
      obtain ⟨-, -, rfl, -⟩ := Registry.addData_eq_ok.1 h
      exact hr
    | scale =>
      obtain ⟨-, -, rfl, -⟩ := Registry.addScale_eq_ok.1 h
      exact hr
    | mark =>
      obtain ⟨-, -, rfl, -⟩ := Registry.addMark_eq_ok.1 h
      exact hr
    | axis =>
      obtain ⟨hfinish, rfl⟩ := Registry.addAxis_eq_ok.1 h
      intro a ha
      rcases List.mem_append.1 ha with ha | ha
      · exact hr a ha
      · rw [List.mem_singleton.1 ha, AxisDraft.settings_finish hfinish]
        exact hd
  transform r r' kind properties t hr h := by
    obtain ⟨-, -, rfl⟩ := Registry.buildTransform_eq_ok.1 h
    exact hr
  grows _ _ _ _ _ hd := hd

/-! ## Top theorem -/

/-- No registered axis has a part that is styled twice. -/
theorem Bench.partsDistinct_run (moves : List Move) :
    ∀ a ∈ (run {} moves).registry.axes, a.settings.PartsDistinct :=
  kept_partsDistinct.run (allows_true {} moves) kept_partsDistinct.empty (by simp)

end ChartSpec
