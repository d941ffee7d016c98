import ChartSpec.Proofs.Result
import ChartSpec.Transform.Attach

/-!
# Attached transforms

A transform that has been attached reads the data sets that it read before, and all of them are
known (`Transform.known_of_attach`).
-/

namespace ChartSpec

theorem KnownData.check_eq_ok {known : KnownData} {property name : String} {u : Unit} :
    known.check property name = .ok u ↔ (known name).isSome = true := by
  simp [KnownData.check, KnownData.demand, Option.isSome_iff_exists]

namespace Slot

variable {p : Property}

theorem validate_eq_ok {known : KnownData} {slot : Slot p} {u : Unit} :
    slot.validate known = .ok u ↔
      (p.role = .data → ∀ n ∈ slot.texts, (known n).isSome = true) := by
  rw [validate]
  by_cases hp : p.role = .data
  · rw [if_pos hp, forM_eq_ok]
    simp only [hp, KnownData.check_eq_ok, forall_const]
  · simp [hp]

theorem resolve_of_data {known : KnownData} {fields : FieldSet} {other : String → Option String}
    {slot slot' : Slot p} (hp : p.role = .data)
    (h : slot.resolve known fields other = .ok slot') : slot' = slot := by
  unfold resolve at h
  split at h
  all_goals simp_all

end Slot

namespace Record

theorem validate_eq_ok {known : KnownData} {ps : List Property} {r : Record ps} {u : Unit} :
    r.validate known = .ok u ↔ ∀ n ∈ r.textsOfRole .data, (known n).isSome = true := by
  induction r with
  | nil => simp [validate, textsOfRole]
  | @cons p ps slot rest ih =>
    rw [validate, bind_eq_ok]
    simp only [Slot.validate_eq_ok, ih, exists_const]
    by_cases hp : p.role = .data
    · simp only [textsOfRole, hp, if_true, List.mem_append, or_imp, forall_and, forall_const]
    · simp [textsOfRole, hp]

theorem textsOfRole_resolve {known : KnownData} {fields : FieldSet}
    {other : String → Option String} {ps : List Property} {r r' : Record ps}
    (h : r.resolve known fields other = .ok r') : r'.textsOfRole .data = r.textsOfRole .data := by
  induction r with
  | nil =>
    simp only [resolve, Except.ok.injEq] at h
    rw [← h]
  | @cons p ps slot rest ih =>
    simp only [resolve, bind_eq_ok, pure_eq_ok] at h
    obtain ⟨slot', hslot, rest', hrest, rfl⟩ := h
    by_cases hp : p.role = .data
    · simp [textsOfRole, hp, ih hrest, Slot.resolve_of_data hp hslot]
    · simp [textsOfRole, hp, ih hrest]

end Record

namespace Transform

variable {known : KnownData} {fields fields' : FieldSet} {t t' : Transform}

theorem attach_eq_ok :
    t.attach known fields = .ok (t', fields') ↔
      t.check = .ok () ∧ t.validate known = .ok () ∧ t.resolve known fields = .ok t' ∧
        fields' = fields.extend t'.outputs := by
  simp only [attach, bind_eq_ok, inPlace_eq_ok, pure_eq_ok, Prod.mk.injEq]
  constructor
  · rintro ⟨_, ⟨_, hcheck, hvalidate⟩, _, hresolve, rfl, rfl⟩
    exact ⟨hcheck, hvalidate, hresolve, rfl⟩
  · rintro ⟨hcheck, hvalidate, hresolve, rfl⟩
    exact ⟨(), ⟨(), hcheck, hvalidate⟩, t', hresolve, rfl, rfl⟩

theorem sources_of_resolve (h : t.resolve known fields = .ok t') : t'.sources = t.sources := by
  simp only [resolve, bind_eq_ok, pure_eq_ok] at h
  obtain ⟨r, hr, rfl⟩ := h
  exact Record.textsOfRole_resolve hr

theorem known_of_attach (h : t.attach known fields = .ok (t', fields')) :
    ∀ n ∈ t'.sources, (known n).isSome = true := by
  obtain ⟨-, hvalidate, hresolve, -⟩ := attach_eq_ok.1 h
  rw [sources_of_resolve hresolve]
  exact Record.validate_eq_ok.1 hvalidate

end Transform

end ChartSpec
