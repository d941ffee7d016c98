import ChartSpec.Arguments
import ChartSpec.Proofs.Result

/-!
# Arguments

A setting of one value gets it from a list of exactly one, and is refused any other list.
-/

namespace ChartSpec

namespace Arguments

variable {α : Type} {name : String}

@[simp] theorem single_singleton (a : α) : single name [a] = .ok a := rfl

/-- A list has its one value or is refused; a value that has been counted is found. -/
theorem single_cases (name : String) (args : List α) :
    (∃ a, args = [a] ∧ single name args = .ok a) ∨
      args.length ≠ 1 ∧ single name args = .error (.refused (.singleValue name args.length)) := by
  by_cases hone : args.length = 1
  · obtain ⟨a, rfl⟩ := List.length_eq_one_iff.1 hone
    exact .inl ⟨a, rfl, rfl⟩
  · exact .inr ⟨hone, if_pos hone⟩

end Arguments

end ChartSpec
