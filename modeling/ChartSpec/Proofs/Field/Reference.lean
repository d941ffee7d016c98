import ChartSpec.Field.Reference

/-!
# What a field token looks up

The position, the structural fields and the user's fields behind `data.` are the same in every
context.  Any other token has one name looked up among the fields of the context, and the token
means the same in two contexts exactly if this name has the same place in both
(`resolveField_eq_iff`).
-/

namespace ChartSpec

open FieldReference

/-- The name that a token has looked up in its context. -/
def lookedUp? (token : String) : Option String :=
  (parseField token).field.filter fun field =>
    field ≠ "index" ∧ (parseField token).source ≠ some "data" ∧
      ¬ ((parseField token).source = none ∧ field ∈ FieldSet.structural.names)

/-! ## Lemmas -/

theorem qualified_parseField (token : String) : (parseField token).qualified = false := by
  rw [parseField]
  split <;> rfl

theorem resolveField_of_lookedUp {fields : FieldSet} {token field : String}
    (h : lookedUp? token = some field) : resolveField fields token = place fields field := by
  obtain ⟨hfield, hlooked⟩ := Option.filter_eq_some_iff.1 h
  obtain ⟨hindex, hsource, hstructural⟩ := of_decide_eq_true hlooked
  rw [resolveField, resolve, hfield]
  simp only [qualified_parseField, and_true]
  rw [if_neg hindex, if_neg hsource, if_neg hstructural]

theorem resolveField_of_not_lookedUp (fields fields' : FieldSet) {token : String}
    (h : lookedUp? token = none) : resolveField fields token = resolveField fields' token := by
  rw [resolveField, resolveField, resolve, resolve]
  cases hfield : (parseField token).field with
  | none => rfl
  | some field =>
    simp only [qualified_parseField, and_true]
    rw [lookedUp?, hfield, Option.filter_eq_none_iff] at h
    have hfree := h field rfl
    split
    · rfl
    · split
      · rfl
      · split
        · rfl
        · simp_all

/-! ## Top theorem -/

/-- A token means the same in two contexts exactly if the name that it has looked up, if any, has
the same place in both. -/
theorem resolveField_eq_iff (fields fields' : FieldSet) (token : String) :
    resolveField fields token = resolveField fields' token ↔
      ∀ field ∈ lookedUp? token, place fields field = place fields' field := by
  cases h : lookedUp? token with
  | none => simp [resolveField_of_not_lookedUp fields fields' h]
  | some field => simp [resolveField_of_lookedUp h]

end ChartSpec
