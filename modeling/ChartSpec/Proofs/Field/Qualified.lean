import ChartSpec.Proofs.Field.Reference
import Mathlib.Data.List.TakeWhile

/-!
# Fields behind the name of a data set

A token is taken apart at its first point.  In a context with the structural fields, a field
without a point means the same on its own and behind the name of its data set
(`resolveQualified_eq_resolveField`).  Behind any name but `data` the two readings of a token
agree, whatever the field is (`resolveQualified_eq_resolveField_append`).
-/

namespace ChartSpec

namespace FieldReference

/-! ## Taking tokens apart -/

theorem forall_bne_point {s : List Char} : (∀ c ∈ s, (c != '.') = true) ↔ '.' ∉ s := by
  simp only [bne_iff_ne]
  constructor
  · intro h hmem
    exact h '.' hmem rfl
  · rintro h c hc rfl
    exact h hc

theorem splitPoint_append {source : List Char} (h : '.' ∉ source) (field : List Char) :
    splitPoint (source ++ '.' :: field) = some (source, field) := by
  have hsource := forall_bne_point.2 h
  unfold splitPoint
  rw [List.dropWhile_append_of_pos hsource, List.takeWhile_append_of_pos hsource]
  simp

theorem splitPoint_eq_none {s : List Char} (h : '.' ∉ s) : splitPoint s = none := by
  unfold splitPoint
  rw [List.dropWhile_eq_nil_iff.2 (forall_bne_point.2 h)]

theorem toList_append_point (source field : String) :
    (source ++ "." ++ field).toList = source.toList ++ '.' :: field.toList := by
  simp

variable {source field : String}

theorem parseQualified_append (h : '.' ∉ source.toList) :
    parseQualified (source ++ "." ++ field) = ⟨some source, nonEmpty field, true⟩ := by
  rw [parseQualified, toList_append_point, splitPoint_append h]
  simp

theorem parseField_append (h : '.' ∉ source.toList) :
    parseField (source ++ "." ++ field) = ⟨some source, nonEmpty field, false⟩ := by
  rw [parseField, toList_append_point, splitPoint_append h]
  simp

theorem parseField_of_noPoint (h : '.' ∉ field.toList) :
    parseField field = ⟨none, nonEmpty field, false⟩ := by
  rw [parseField, splitPoint_eq_none h]

/-! ## Places -/

variable {fields : FieldSet}

theorem place_of_mem (h : field ∈ fields.names) : place fields field = field := by
  rw [place, FieldSet.lookup, if_pos h, Option.getD_some]

/-- The exceptions of unqualified tokens aside, a reference means the place of its field. -/
theorem resolve_eq_place {source : Option String} {qualified : Bool}
    (hsource : source = some "data" → qualified = true)
    (hnone : source = none → field ∈ FieldSet.structural.names → place fields field = field) :
    resolve ⟨source, nonEmpty field, qualified⟩ fields =
      if field = "" ∨ field = "index" then "index" else place fields field := by
  unfold resolve nonEmpty
  by_cases hempty : field = ""
  · simp [hempty]
  · by_cases hindex : field = "index"
    · simp [hindex]
    · have huser : ¬ (source = some "data" ∧ qualified = false) := by
        rintro ⟨hdata, hbare⟩
        rw [hsource hdata] at hbare
        cases hbare
      simp only [hempty, hindex, huser, if_false, or_self]
      split
      · rename_i hbare
        exact (hnone hbare.1 hbare.2).symm
      · rfl

end FieldReference

open FieldReference

variable {fields : FieldSet} {source field : String}

/-! ## Top theorems -/

theorem resolveQualified_append (h : '.' ∉ source.toList) :
    resolveQualified fields (source ++ "." ++ field) =
      if field = "" ∨ field = "index" then "index" else place fields field := by
  rw [resolveQualified, parseQualified_append h]
  exact resolve_eq_place (fun _ => rfl) (by simp)

/-- Without a point, a field on its own is the field behind the name of its data set. -/
theorem resolveQualified_eq_resolveField (hfields : FieldSet.structural.names ⊆ fields.names)
    (hsource : '.' ∉ source.toList) (hfield : '.' ∉ field.toList) :
    resolveQualified fields (source ++ "." ++ field) = resolveField fields field := by
  rw [resolveQualified_append hsource, resolveField, parseField_of_noPoint hfield]
  refine (resolve_eq_place (by simp) ?_).symm
  intro _ hstructural
  exact place_of_mem (hfields hstructural)

/-- Behind another name than `data`, any field is the one that the whole token names. -/
theorem resolveQualified_eq_resolveField_append (hsource : '.' ∉ source.toList)
    (hdata : source ≠ "data") :
    resolveQualified fields (source ++ "." ++ field) =
      resolveField fields (source ++ "." ++ field) := by
  rw [resolveQualified_append hsource, resolveField, parseField_append hsource]
  refine (resolve_eq_place ?_ (by simp)).symm
  intro h
  exact absurd (Option.some.inj h) hdata

end ChartSpec
