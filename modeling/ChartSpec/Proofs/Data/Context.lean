import ChartSpec.Proofs.Field.Set
import ChartSpec.Proofs.Integrity

/-!
# Contexts of data sets

A set of fields grows at its end.  The context of a data set therefore begins with the structural
fields, whatever calls built it (`Bench.beginsStructural_run`).
-/

namespace ChartSpec

/-! ## Data sets -/

/-- The context begins with the structural fields. -/
def Data.BeginsStructural (d : Data) : Prop := FieldSet.structural.names <+: d.fields.names

namespace Data

variable {r : Registry} {d d' : Data}

theorem beginsStructural_addTransform {t : Transform} (hd : d.BeginsStructural)
    (h : d.addTransform r t = .ok d') : d'.BeginsStructural := by
  obtain ⟨t', fields, hattach, rfl⟩ := addTransform_eq_ok.1 h
  obtain ⟨-, -, -, rfl⟩ := Transform.attach_eq_ok.1 hattach
  exact List.IsPrefix.trans hd (FieldSet.prefix_extend _ _)

theorem beginsStructural_apply {call : DataCall} (hd : d.BeginsStructural)
    (h : d.apply r call = .ok d') : d'.BeginsStructural := by
  rcases apply_frame h with hsets | ⟨-, -, -, hfields⟩
  · cases call with
    | source name =>
      obtain ⟨-, source, -, rfl⟩ := setSource_eq_ok.1 h
      exact FieldSet.prefix_extend _ _
    | transform t => exact beginsStructural_addTransform hd h
    | transforms ts =>
      exact foldlM_induction (P := BeginsStructural) h hd
        fun _ _ _ _ hc => beginsStructural_addTransform hc
    | values | valuesText | url | format => cases hsets
  · unfold BeginsStructural
    rw [hfields]
    exact hd

end Data

/-- What a draft of a data set keeps, and no other draft is asked. -/
def PartKind.BeginsStructural : (k : PartKind) → k.Draft → Prop
  | .data => Data.BeginsStructural
  | .scale => fun _ => True
  | .mark => fun _ => True
  | .axis => fun _ => True

/-- Every call on a data set keeps the beginning of its context. -/
theorem kept_beginsStructural : Kept (fun _ _ _ => True)
    (fun r => ∀ d ∈ r.data, d.BeginsStructural) (fun _ k => k.BeginsStructural) where
  empty := by simp
  start r k seed := by
    cases k with
    | data => exact List.prefix_rfl
    | scale | mark | axis => trivial
  call r k d d' c _ hd _ h := by
    cases k with
    | data => exact Data.beginsStructural_apply hd h
    | scale | mark | axis => trivial
  add r r' k d made hr hd h := by
    cases k with
    | data =>
      obtain ⟨-, -, rfl, -⟩ := Registry.addData_eq_ok.1 h
      intro e he
      rcases List.mem_append.1 he with he | he
      · exact hr e he
      · rw [List.mem_singleton.1 he]
        exact hd
    | scale =>
      obtain ⟨-, -, rfl, -⟩ := Registry.addScale_eq_ok.1 h
      exact hr
    | mark =>
      obtain ⟨-, -, rfl, -⟩ := Registry.addMark_eq_ok.1 h
      exact hr
    | axis =>
      obtain ⟨-, rfl⟩ := Registry.addAxis_eq_ok.1 h
      exact hr
  transform r r' kind properties t hr h := by
    obtain ⟨-, -, rfl⟩ := Registry.buildTransform_eq_ok.1 h
    exact hr
  grows _ _ _ _ _ hd := hd

/-! ## Top theorem -/

/-- The context of every registered data set begins with the structural fields. -/
theorem Bench.beginsStructural_run (moves : List Move) :
    ∀ d ∈ (run {} moves).registry.data, FieldSet.structural.names <+: d.fields.names :=
  kept_beginsStructural.run (allows_true {} moves) kept_beginsStructural.empty (by simp)

end ChartSpec
