import ChartSpec.References
import Mathlib.Data.List.Nodup

/-!
# First occurrences

`eraseDups` keeps the first occurrence of each element.  Collecting elements with `addNew` comes
to the same, in any number of runs one after the other.
-/

namespace ChartSpec

variable {α β : Type} [BEq α] [LawfulBEq α] [BEq β] [LawfulBEq β]

theorem nodup_eraseDups (xs : List α) : xs.eraseDups.Nodup := by
  match xs with
  | [] => exact List.nodup_nil
  | x :: xs =>
    have hlen := List.length_filter_le (fun y => !y == x) xs
    rw [List.eraseDups_cons, List.nodup_cons]
    exact ⟨by simp, nodup_eraseDups _⟩
termination_by xs.length
decreasing_by simp only [List.length_cons]; omega

/-- Erasing repetitions and filtering commute. -/
theorem eraseDups_filter (p : α → Bool) (xs : List α) :
    (xs.filter p).eraseDups = xs.eraseDups.filter p := by
  match xs with
  | [] => rfl
  | x :: xs =>
    have hlen := List.length_filter_le (fun y => !y == x) xs
    have ih := eraseDups_filter p (xs.filter fun y => !y == x)
    rw [List.eraseDups_cons]
    by_cases hx : p x = true
    · rw [List.filter_cons_of_pos hx, List.filter_cons_of_pos hx, List.eraseDups_cons, ← ih,
        List.filter_filter, List.filter_filter]
      simp only [Bool.and_comm]
    · -- `x` is filtered out, so erasing its other occurrences first makes no difference
      have hsame : (xs.filter fun y => !y == x).filter p = xs.filter p := by
        rw [List.filter_filter]
        apply List.filter_congr
        intro y _
        by_cases hy : y = x
        · subst hy
          simp [hx]
        · simp [hy]
      rw [List.filter_cons_of_neg hx, List.filter_cons_of_neg hx, ← ih, hsame]
termination_by xs.length
decreasing_by simp only [List.length_cons]; omega

/-- Repetitions that are erased before a map are those that it would repeat anyway. -/
theorem eraseDups_map_eraseDups (f : α → β) (xs : List α) :
    (xs.eraseDups.map f).eraseDups = (xs.map f).eraseDups := by
  match xs with
  | [] => rfl
  | x :: xs =>
    have hlen := List.length_filter_le (fun y => !y == x) xs
    have ih := eraseDups_map_eraseDups f (xs.filter fun y => !y == x)
    rw [List.eraseDups_cons, List.map_cons, List.map_cons, List.eraseDups_cons, List.eraseDups_cons,
      eraseDups_filter, ih, ← eraseDups_filter]
    -- an element that maps elsewhere than `x` is not `x`
    have hsame : ((xs.filter fun y => !y == x).map f).filter (fun b => !b == f x) =
        (xs.map f).filter fun b => !b == f x := by
      rw [List.filter_map, List.filter_map, List.filter_filter]
      congr 1
      apply List.filter_congr
      intro y _
      by_cases hy : y = x
      · subst hy
        simp
      · simp [hy]
    rw [hsame]
termination_by xs.length
decreasing_by simp only [List.length_cons]; omega

theorem eraseDups_of_nodup {xs : List α} (h : xs.Nodup) : xs.eraseDups = xs := by
  induction xs with
  | nil => rfl
  | cons x xs ih =>
    obtain ⟨hx, hxs⟩ := List.nodup_cons.1 h
    have hall : (xs.filter fun y => !y == x) = xs := by
      apply List.filter_eq_self.2
      intro y hy
      simp only [Bool.not_eq_true', beq_eq_false_iff_ne]
      rintro rfl
      exact hx hy
    rw [List.eraseDups_cons, hall, ih hxs]

/-- An element that has occurred can be left out. -/
theorem eraseDups_append_cons_of_mem {xs : List α} {x : α} (h : x ∈ xs) (ys : List α) :
    (xs ++ x :: ys).eraseDups = (xs ++ ys).eraseDups := by
  rw [List.eraseDups_append, List.eraseDups_append, List.cons_removeAll, if_neg (by simpa using h)]

theorem eraseDups_map_of_injective {f : α → β} (hf : Function.Injective f) (xs : List α) :
    (xs.map f).eraseDups = xs.eraseDups.map f := by
  rw [← eraseDups_map_eraseDups, eraseDups_of_nodup ((nodup_eraseDups xs).map hf)]

/-- Leaving elements out keeps the order of those that stay. -/
theorem idxOf_filter_lt_iff {p : α → Bool} {a b : α} (ha : p a = true) (hb : p b = true)
    (xs : List α) :
    (xs.filter p).idxOf a < (xs.filter p).idxOf b ↔ xs.idxOf a < xs.idxOf b := by
  induction xs with
  | nil => simp
  | cons x xs ih =>
    by_cases hx : p x = true
    · rw [List.filter_cons_of_pos hx]
      simp only [List.idxOf_cons]
      cases x == a <;> cases x == b <;> simp [ih]
    · have hxa : (x == a) = false := beq_eq_false_iff_ne.2 fun heq => hx (heq ▸ ha)
      have hxb : (x == b) = false := beq_eq_false_iff_ne.2 fun heq => hx (heq ▸ hb)
      rw [List.filter_cons_of_neg hx, ih]
      simp [List.idxOf_cons, hxa, hxb]

/-- The order of the first occurrences. -/
theorem idxOf_eraseDups_lt_iff (a b : α) (xs : List α) :
    xs.eraseDups.idxOf a < xs.eraseDups.idxOf b ↔ xs.idxOf a < xs.idxOf b := by
  match xs with
  | [] => simp
  | x :: xs =>
    have hlen := List.length_filter_le (fun y => !y == x) xs
    have ih := idxOf_eraseDups_lt_iff a b (xs.filter fun y => !y == x)
    rw [List.eraseDups_cons]
    simp only [List.idxOf_cons]
    cases hxa : x == a <;> cases hxb : x == b
    · have ha : (!a == x) = true := by simpa [Bool.beq_comm] using hxa
      have hb : (!b == x) = true := by simpa [Bool.beq_comm] using hxb
      simp only [cond_false, Nat.add_lt_add_iff_right, ih]
      exact idxOf_filter_lt_iff (p := fun y => !y == x) ha hb xs
    all_goals simp
termination_by xs.length
decreasing_by simp only [List.length_cons]; omega

theorem foldl_addNew [DecidableEq α] (xs acc : List α) :
    xs.foldl References.addNew acc = acc ++ (xs.filter fun x => !acc.contains x).eraseDups := by
  induction xs generalizing acc with
  | nil => simp
  | cons x xs ih =>
    rw [List.foldl_cons, ih]
    by_cases hx : x ∈ acc
    · simp [References.addNew, hx]
    · rw [List.filter_cons_of_pos (by simp [hx]), List.eraseDups_cons, List.filter_filter]
      simp only [References.addNew, hx, if_false, List.append_assoc, List.singleton_append]
      congr 3
      apply List.filter_congr
      intro y _
      by_cases hy : y = x <;> simp [hy]

theorem foldl_addNew_nil [DecidableEq α] (xs : List α) :
    xs.foldl References.addNew [] = xs.eraseDups := by
  rw [foldl_addNew, List.nil_append, List.filter_eq_self.2 (by simp)]

end ChartSpec
