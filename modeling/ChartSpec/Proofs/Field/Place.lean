import ChartSpec.Proofs.Field.Qualified
import ChartSpec.Proofs.Naming

/-!
# Places of fields

Whatever a token is, it resolves to the place of a value in a record: the position, the user's
data or a field of it, or an added field (`FieldSet.isPlace_resolveField`).  A place is a token as
well.  If the added fields have plain names, it stands for itself, also when more fields have been
added, so that resolving twice is resolving once (`FieldSet.resolveField_resolveField`).

Without the plain names this fails:

    added "a.b"        the place a.b resolves to data.b
    added ""           the empty place resolves to index

An added field stands for itself exactly if its name is not empty and either has no point or is
spelled as a field of the user's data (`FieldSet.resolveField_eq_self_iff`).
-/

namespace ChartSpec

open FieldReference

namespace FieldSet

/-- Every name is one that tokens spell as it is: not empty, without a point and without a minus
sign in front. -/
def Plain (s : FieldSet) : Prop :=
  ∀ name ∈ s.names, name ≠ "" ∧ '.' ∉ name.toList ∧ name.toList.head? ≠ some '-'

instance (s : FieldSet) : Decidable s.Plain :=
  inferInstanceAs (Decidable (∀ name ∈ s.names, _ ∧ _ ∧ _))

/-- The places of values in records that hold the fields of a context. -/
inductive IsPlace (s : FieldSet) : String → Prop where
  | position : IsPlace s "index"
  | data : IsPlace s "data"
  | user {field : String} (nonempty : field ≠ "") (other : field ≠ "index") :
    IsPlace s ("data." ++ field)
  | added {name : String} (mem : name ∈ s.names) : IsPlace s name

end FieldSet

/-- A sort key without the minus sign of descending order. -/
def dropMinus (key : String) : String :=
  match key.toList with
  | '-' :: rest => String.ofList rest
  | _ => key

/-! ## Lemmas -/

theorem FieldReference.nonEmpty_eq_some {s field : String} (h : nonEmpty s = some field) :
    field = s ∧ field ≠ "" := by
  rw [nonEmpty] at h
  split at h
  · cases h
  · rename_i hne
    cases h
    exact ⟨rfl, hne⟩

/-- The field of a token is never empty. -/
theorem FieldReference.ne_empty_of_parseField {token field : String}
    (h : (parseField token).field = some field) : field ≠ "" := by
  rw [parseField] at h
  split at h
  · exact (nonEmpty_eq_some h).2
  · exact (nonEmpty_eq_some h).2

theorem FieldReference.exists_of_point_mem {token : String} (h : '.' ∈ token.toList) :
    ∃ source field, token = source ++ "." ++ field ∧ '.' ∉ source.toList := by
  obtain ⟨source, field, htoken, hsource⟩ := List.eq_append_cons_of_mem h
  refine ⟨String.ofList source, String.ofList field, ?_, by rwa [String.toList_ofList]⟩
  rw [← String.toList_inj, htoken, toList_append_point]
  simp

namespace FieldSet

variable {s s' : FieldSet} {token : String}

theorem isPlace_place {field : String} (hempty : field ≠ "") (hindex : field ≠ "index") :
    s.IsPlace (place s field) := by
  rw [place, lookup]
  split
  · rename_i hmem
    exact .added hmem
  · split
    · rename_i hcamel
      exact .added hcamel.2
    · exact .user hempty hindex

/-- A token always resolves to a place. -/
theorem isPlace_resolveField (s : FieldSet) (token : String) :
    s.IsPlace (resolveField s token) := by
  rw [resolveField, resolve]
  cases hfield : (parseField token).field with
  | none => exact .position
  | some field =>
    have hempty := ne_empty_of_parseField hfield
    by_cases hindex : field = "index"
    · simp only [hindex, if_true]
      exact .position
    · simp only [if_neg hindex]
      split
      · exact .user hempty hindex
      · split
        · rename_i hstructural
          -- The position has been dealt with, so the field is the user's data.
          obtain rfl : field = "data" := by
            simpa [structural, hindex] using hstructural.2
          exact .data
        · exact isPlace_place hempty hindex

theorem resolveField_user {field : String} (hempty : field ≠ "") (hindex : field ≠ "index") :
    resolveField s ("data." ++ field) = "data." ++ field := by
  have htoken : "data." ++ field = "data" ++ "." ++ field := rfl
  rw [resolveField, htoken, parseField_append (by decide), nonEmpty, if_neg hempty]
  simp [resolve, hindex]

theorem resolveField_added {name : String} (hempty : name ≠ "") (hpoint : '.' ∉ name.toList)
    (hmem : name ∈ s.names) : resolveField s name = name := by
  rw [resolveField, parseField_of_noPoint hpoint, nonEmpty, if_neg hempty, resolve]
  simp only [reduceCtorEq, false_and, if_false, true_and, place_of_mem hmem]
  split
  · rename_i hindex
    exact hindex.symm
  · exact ite_self _

/-- A place among plain names is a token that stands for itself. -/
theorem resolveField_of_isPlace (hplain : s.Plain) (hsub : s.names ⊆ s'.names) {place : String}
    (h : s.IsPlace place) : resolveField s' place = place := by
  cases h with
  | position => rw [resolveField, parseField_of_noPoint (by decide)]; rfl
  | data => rw [resolveField, parseField_of_noPoint (by decide)]; rfl
  | user hempty hindex => exact resolveField_user hempty hindex
  | added hmem =>
    obtain ⟨hempty, hpoint, -⟩ := hplain _ hmem
    exact resolveField_added hempty hpoint (hsub hmem)

/-- Behind a point no added field is found under the whole token. -/
theorem place_ne_token {source field : String} (hsource : source ≠ "data") :
    place s field ≠ source ++ "." ++ field := by
  intro h
  rw [place, lookup] at h
  split at h
  · have hlength := congrArg String.length h
    simp only [Option.getD_some, String.length_append] at hlength
    have hpoint : ".".length = 1 := rfl
    omega
  · split at h
    · rename_i hcamel
      refine not_mem_toCamel Text.isSeparator_point hcamel.1 ?_
      rw [Option.getD_some] at h
      rw [h, toList_append_point]
      simp
    · have htoken : "data." ++ field = "data" ++ "." ++ field := rfl
      rw [Option.getD_none, htoken] at h
      have hlist := congrArg String.toList h
      rw [toList_append_point, toList_append_point] at hlist
      exact hsource (String.toList_inj.1 (List.append_cancel_right hlist)).symm

theorem head?_ne_minus_of_isPlace (hplain : s.Plain) {place : String} (h : s.IsPlace place) :
    place.toList.head? ≠ some '-' := by
  cases h with
  | position => decide
  | data => decide
  | user => simp
  | added hmem => exact (hplain _ hmem).2.2

end FieldSet

theorem resolveSortKey_of_minus (fields : FieldSet) (field : String) :
    resolveSortKey fields ("-" ++ field) = "-" ++ resolveField fields field := by
  have hlist : ("-" ++ field).toList = '-' :: field.toList := by simp
  rw [resolveSortKey, hlist]
  simp

theorem resolveSortKey_of_head?_ne (fields : FieldSet) {key : String}
    (h : key.toList.head? ≠ some '-') : resolveSortKey fields key = resolveField fields key := by
  rw [resolveSortKey]
  split
  · rename_i heq
    rw [heq] at h
    exact absurd rfl h
  · rfl

theorem dropMinus_minus (field : String) : dropMinus ("-" ++ field) = field := by
  have hlist : ("-" ++ field).toList = '-' :: field.toList := by simp
  rw [dropMinus, hlist]
  simp

theorem dropMinus_of_head?_ne {key : String} (h : key.toList.head? ≠ some '-') :
    dropMinus key = key := by
  rw [dropMinus]
  split
  · rename_i heq
    rw [heq] at h
    exact absurd rfl h
  · rfl

/-- A sort key is a field with or without a minus sign. -/
theorem sortKey_cases (key : String) :
    (∃ field, key = "-" ++ field) ∨ key.toList.head? ≠ some '-' := by
  cases hlist : key.toList with
  | nil => exact .inr (by simp)
  | cons c rest =>
    by_cases hminus : c = '-'
    · refine .inl ⟨String.ofList rest, ?_⟩
      rw [← String.toList_inj, hlist, hminus]
      simp
    · exact .inr (by simpa using hminus)

/-! ## Top theorems -/

namespace FieldSet

variable {s s' : FieldSet}

/-- Resolving twice is resolving once, also in a context with more fields. -/
theorem resolveField_resolveField (hplain : s.Plain) (hsub : s.names ⊆ s'.names)
    (token : String) : resolveField s' (resolveField s token) = resolveField s token :=
  resolveField_of_isPlace hplain hsub (s.isPlace_resolveField token)

/-- A resolved sort key is a place, maybe behind a minus sign. -/
theorem isPlace_resolveSortKey (hplain : s.Plain) (key : String) :
    s.IsPlace (dropMinus (resolveSortKey s key)) := by
  rcases sortKey_cases key with ⟨field, rfl⟩ | hkey
  · rw [resolveSortKey_of_minus, dropMinus_minus]
    exact s.isPlace_resolveField field
  · have hplace := s.isPlace_resolveField key
    rw [resolveSortKey_of_head?_ne s hkey,
      dropMinus_of_head?_ne (head?_ne_minus_of_isPlace hplain hplace)]
    exact hplace

theorem resolveSortKey_resolveSortKey (hplain : s.Plain) (hsub : s.names ⊆ s'.names)
    (key : String) : resolveSortKey s' (resolveSortKey s key) = resolveSortKey s key := by
  rcases sortKey_cases key with ⟨field, rfl⟩ | hkey
  · rw [resolveSortKey_of_minus, resolveSortKey_of_minus,
      resolveField_resolveField hplain hsub]
  · have hplace := head?_ne_minus_of_isPlace hplain (s.isPlace_resolveField key)
    rw [resolveSortKey_of_head?_ne s hkey, resolveSortKey_of_head?_ne s' hplace,
      resolveField_resolveField hplain hsub]

/-- Which added fields stand for themselves. -/
theorem resolveField_eq_self_iff {name : String} (hmem : name ∈ s.names) :
    resolveField s name = name ↔ name ≠ "" ∧ ('.' ∉ name.toList ∨
      ∃ field, field ≠ "" ∧ field ≠ "index" ∧ name = "data." ++ field) := by
  constructor
  · intro h
    have hempty : name ≠ "" := by
      rintro rfl
      exact absurd (show "index" = "" from h) (by decide)
    refine ⟨hempty, Classical.or_iff_not_imp_left.2 fun hpoint => ?_⟩
    obtain ⟨source, field, rfl, hsource⟩ := exists_of_point_mem (not_not.1 hpoint)
    -- The position has no point.
    have hposition : "index" ≠ source ++ "." ++ field := by
      intro heq
      exact hpoint (heq ▸ by decide)
    rw [resolveField, parseField_append hsource, nonEmpty, resolve] at h
    by_cases hfield : field = ""
    · rw [if_pos hfield] at h
      exact absurd h hposition
    · by_cases hindex : field = "index"
      · rw [if_neg hfield] at h
        exact absurd ((if_pos hindex).symm.trans h) hposition
      · refine ⟨field, hfield, hindex, ?_⟩
        by_cases hdata : source = "data"
        · rw [hdata]
          rfl
        · simp only [hfield, hindex, hdata, if_false, Option.some.injEq, false_and,
            reduceCtorEq] at h
          exact absurd h (place_ne_token hdata)
  · rintro ⟨hempty, hpoint | ⟨field, hfield, hindex, rfl⟩⟩
    · exact resolveField_added hempty hpoint hmem
    · exact resolveField_user hfield hindex

end FieldSet

end ChartSpec
