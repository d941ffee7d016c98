import ChartSpec.Proofs.Agreement
import ChartSpec.Proofs.Integrity

/-!
# Listed parts

A part is listed as its draft came to it, and no part is changed once it is listed.  So a property
of parts holds of all listed parts if the calls on a draft lead up to it and the growth of the
registry keeps it (`KeptByParts.run`).  How the parts of the different kinds are listed is settled
here once for all such properties.
-/

namespace ChartSpec

/-- The part is in the list of its kind.  Visualizations are never listed. -/
def Registry.Lists (r : Registry) : Part → Prop
  | .data d => d ∈ r.data
  | .scale s => s ∈ r.scales
  | .transform t => t ∈ r.transforms
  | .mark m => m ∈ r.marks
  | .axis a => a ∈ r.axes
  | .visualization _ => False

/-- A property of drafts that calls keep, and a property of parts that finished drafts and new
transforms have.  The growth of the registry keeps both. -/
structure KeptByParts (onPart : Registry → Part → Prop)
    (onDraft : Registry → (k : PartKind) → k.Draft → Prop) : Prop where
  start : ∀ r k seed, onDraft r k (k.start seed)
  call : ∀ r k d d' c, onDraft r k d → k.apply r d c = .ok d' → onDraft r k d'
  finish : ∀ r k d made, onDraft r k d → k.finish d = .ok made → onPart r (k.part made)
  transform : ∀ r kind properties t, Step.makeTransform r kind properties = .ok t →
    onPart r (.transform t)
  growsPart : ∀ r r' part, r.Grows r' → onPart r part → onPart r' part
  growsDraft : ∀ r r' k d, r.Grows r' → onDraft r k d → onDraft r' k d

/-! ## Lemmas -/

variable {r r' : Registry}

theorem Registry.lists_put {part other : Part} (h : (r.put part).Lists other) :
    r.Lists other ∨ other = part := by
  cases part <;> cases other <;> simp_all [put, Lists]

theorem PartKind.add_eq_ok {k : PartKind} {d : k.Draft} {made : k.Made} :
    k.add r d = .ok (r', made) ↔ k.finish d = .ok made ∧
      r.checkFree (k.part made) = .ok () ∧ r' = r.put (k.part made) := by
  simp only [add_eq, bind_eq_ok, pure_eq_ok, Prod.mk.injEq]
  constructor
  · rintro ⟨_, hfinish, _, hfree, rfl, rfl⟩
    exact ⟨hfinish, hfree, rfl⟩
  · rintro ⟨hfinish, hfree, rfl⟩
    exact ⟨made, hfinish, (), hfree, rfl, rfl⟩

theorem Step.makeTransform_eq_ok {kind : TransformKind} {properties : Json} {t : Transform} :
    makeTransform r kind properties = .ok t ↔
      Transform.ofProperties kind properties = .ok t ∧ t.validate r.known = .ok () := by
  simp only [makeTransform, bind_eq_ok, inPlace_eq_ok, pure_eq_ok]
  constructor
  · rintro ⟨_, hmade, _, hvalid, rfl⟩
    exact ⟨hmade, hvalid⟩
  · rintro ⟨hmade, hvalid⟩
    exact ⟨t, hmade, (), hvalid, rfl⟩

/-! ### Names -/

/-- No move gives a name of one part of a kind to another. -/
theorem kept_count_le_one (kind : EntityKind) (name : String) :
    Kept (fun _ _ _ => True) (fun r => r.count kind name ≤ 1) (fun _ _ _ => True) where
  empty := by cases kind <;> simp [Registry.count]
  start _ _ _ := trivial
  call _ _ _ _ _ _ _ _ _ := trivial
  add r r' k d made hr _ hadd := by
    obtain ⟨-, hfree, rfl⟩ := PartKind.add_eq_ok.1 hadd
    rw [Registry.count_put]
    split
    · rename_i hkey
      have hzero : r.count kind name = 0 := Registry.checkFree_eq_ok.1 hfree _ hkey
      omega
    · exact hr
  transform r r' _ _ _ hr hbuild := by
    obtain ⟨-, -, rfl⟩ := Registry.buildTransform_eq_ok.1 hbuild
    exact hr
  grows _ _ _ _ _ _ := trivial

theorem Bench.count_le_one_run {b : Bench} {kind : EntityKind} {name : String}
    (hb : b.registry.count kind name ≤ 1) (moves : List Move) :
    (b.run moves).registry.count kind name ≤ 1 :=
  (kept_count_le_one kind name).run (b.allows_true moves) hb fun _ _ _ => trivial

namespace KeptByParts

variable {onPart : Registry → Part → Prop} {onDraft : Registry → (k : PartKind) → k.Draft → Prop}

/-- Listing a part that has the property leaves no part without it. -/
theorem put (h : KeptByParts onPart onDraft) {part : Part}
    (hr : ∀ other, r.Lists other → onPart r other) (hpart : onPart r part) :
    ∀ other, (r.put part).Lists other → onPart (r.put part) other := by
  intro other hother
  refine h.growsPart r _ other (r.grows_put part) ?_
  rcases Registry.lists_put hother with hother | rfl
  · exact hr other hother
  · exact hpart

theorem kept (h : KeptByParts onPart onDraft) :
    Kept (fun _ _ _ => True) (fun r => ∀ part, r.Lists part → onPart r part) onDraft where
  empty part hpart := by cases part <;> cases hpart
  start := h.start
  call r k d d' c _ hd _ happly := h.call r k d d' c hd happly
  add r r' k d made hr hd hadd := by
    obtain ⟨hfinish, -, rfl⟩ := PartKind.add_eq_ok.1 hadd
    exact h.put hr (h.finish r k d made hd hfinish)
  transform r r' kind properties t hr hbuild := by
    obtain ⟨hmade, hvalid, rfl⟩ := Registry.buildTransform_eq_ok.1 hbuild
    exact h.put hr (h.transform r kind properties t (Step.makeTransform_eq_ok.2 ⟨hmade, hvalid⟩))
  grows := h.growsDraft

/-! ## Top theorem -/

/-- Wherever a run of moves from an empty bench leads, all listed parts have the property. -/
theorem run (h : KeptByParts onPart onDraft) (moves : List Move) :
    ∀ part, (Bench.run {} moves).registry.Lists part →
      onPart (Bench.run {} moves).registry part :=
  h.kept.run (Bench.allows_true {} moves) h.kept.empty (by simp)

end KeptByParts

end ChartSpec
