import ChartSpec.Naming
import ChartSpec.Proofs.Transform.Shape
import ChartSpec.Transform.Property

/-!
# The properties of the kinds

What the tables of properties have in common, checked over all kinds: spellings are never shared
and none of them is `type`, the second spelling is that of the document, and a property that
takes any value is optional, so that null always stands for its absence.
-/

namespace ChartSpec

namespace TransformKind

theorem ofName?_name (kind : TransformKind) : ofName? kind.name = some kind := by
  cases kind <;> rfl

theorem nodup_spellings (kind : TransformKind) :
    (kind.properties.flatMap Property.spellings).Nodup := by
  cases kind <;> decide

theorem type_not_mem_spellings (kind : TransformKind) :
    "type" ∉ kind.properties.flatMap Property.spellings := by
  cases kind <;> decide

theorem optional_of_isAny (kind : TransformKind) :
    ∀ p ∈ kind.properties, p.shape.isAny → p.required = false := by
  cases kind <;> decide

/-- A second spelling is there if the document spells the name differently. -/
theorem otherName_eq_toCamel (kind : TransformKind) :
    ∀ p ∈ kind.properties, p.otherName.getD p.name = toCamel p.name := by
  cases kind <;> decide +kernel

/-- The spellings of a property are its name and the name as the document spells it. -/
theorem mem_spellings_iff {kind : TransformKind} {p : Property} (hp : p ∈ kind.properties)
    {key : String} : key ∈ p.spellings ↔ key = p.name ∨ key = toCamel p.name := by
  rw [← kind.otherName_eq_toCamel p hp, Property.spellings]
  cases p.otherName with
  | none => simp
  | some other =>
    simp only [Option.toList_some, List.mem_append, List.mem_singleton, Option.getD_some]
    exact or_comm

end TransformKind

end ChartSpec
