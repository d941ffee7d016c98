import ChartSpec.Arguments
import ChartSpec.Proofs.Enumeration
import Mathlib.Logic.Relation

/-!
# Flattening

Flattening keeps the leaves of nested lists: the values that are no lists, objects with all that
they hold among them.

    [1, [[], 2], {"a": [3]}]        1, 2, {"a": [3]}

A leaf stands at the address of its positions in the lists around it.  Flattening enumerates the
leaves (`Json.enumerates_leavesOf`), and two lists of values are flattened to the same one exactly
if they differ in their brackets (`Json.eqvGen_unwraps_iff`).
-/

namespace ChartSpec

namespace Json

/-- The leaves of nested lists at their addresses. -/
inductive LeafAt : List Json → List Nat → Json → Prop
  | leaf {items : List Json} {i : Nat} {v : Json} (hv : items[i]? = some v)
      (hleaf : v.isArray = false) : LeafAt items [i] v
  | inside {items inner : List Json} {i : Nat} {path : List Nat} {v : Json}
      (hinner : items[i]? = some (.arr inner)) (h : LeafAt inner path v) :
      LeafAt items (i :: path) v

/-- One pair of brackets is taken away. -/
inductive Unwraps : List Json → List Json → Prop
  | brackets (before items after : List Json) :
      Unwraps (before ++ .arr items :: after) (before ++ items ++ after)

/-! ## Lemmas -/

/-- What holds of values if it holds of the items of all lists among them, holds of all values. -/
theorem nested_induction {P : List Json → Prop}
    (h : ∀ args, (∀ inner, .arr inner ∈ args → P inner) → P args) (args : List Json) : P args :=
  h args fun inner _ => nested_induction h inner
termination_by sizeOf args
decreasing_by
  rename_i hinner
  have hlt := List.sizeOf_lt_of_mem hinner
  simp only [arr.sizeOf_spec] at hlt
  omega

theorem leaves_of_not_isArray {v : Json} (h : v.isArray = false) : v.leaves = [v] := by
  cases v with
  | arr => cases h
  | _ => rfl

theorem exists_items_of_isArray {v : Json} (h : v.isArray = true) : ∃ items, v = .arr items := by
  cases v with
  | arr items => exact ⟨items, rfl⟩
  | _ => cases h

theorem leavesOf_append (args more : List Json) :
    leavesOf (args ++ more) = leavesOf args ++ leavesOf more := by
  induction args with
  | nil => rfl
  | cons v rest ih => rw [List.cons_append, leavesOf, leavesOf, ih, List.append_assoc]

theorem leavesOf_arr (items : List Json) : leavesOf [.arr items] = leavesOf items :=
  List.append_nil _

theorem leavesOf_of_plain {args : List Json} (h : ∀ v ∈ args, v.isArray = false) :
    leavesOf args = args := by
  induction args with
  | nil => rfl
  | cons v rest ih =>
    obtain ⟨hv, hrest⟩ := List.forall_mem_cons.1 h
    rw [leavesOf, leaves_of_not_isArray hv, ih hrest, List.singleton_append]

/-! ### Addresses -/

theorem LeafAt.isArray {args : List Json} {path : List Nat} {v : Json} (h : LeafAt args path v) :
    v.isArray = false := by
  induction h with
  | leaf hv hleaf => exact hleaf
  | inside hinner h ih => exact ih

theorem leafAt_iff {args : List Json} {path : List Nat} {v : Json} :
    LeafAt args path v ↔ ∃ i item below, args[i]? = some item ∧ path = i :: below ∧
      ((below = [] ∧ v = item ∧ item.isArray = false) ∨
        ∃ inner, item = .arr inner ∧ LeafAt inner below v) := by
  constructor
  · rintro (⟨hv, hleaf⟩ | ⟨hinner, h⟩)
    · exact ⟨_, _, _, hv, rfl, .inl ⟨rfl, rfl, hleaf⟩⟩
    · exact ⟨_, _, _, hinner, rfl, .inr ⟨_, rfl, h⟩⟩
  · rintro ⟨i, item, below, hitem, rfl, ⟨rfl, rfl, hleaf⟩ | ⟨inner, rfl, h⟩⟩
    · exact .leaf hitem hleaf
    · exact .inside hitem h

theorem leavesOf_eq_flatten (args : List Json) :
    leavesOf args = (args.mapIdx fun _ v => v.leaves).flatten := by
  induction args with
  | nil => rfl
  | cons v rest ih => rw [List.mapIdx_cons, List.flatten_cons, ← ih, leavesOf]

/-- Flattening gives each leaf once, from left to right. -/
theorem enumerates_leavesOf (args : List Json) : Enumerates (LeafAt args) (leavesOf args) := by
  induction args using nested_induction with
  | h args ih =>
    rw [leavesOf_eq_flatten]
    refine (Enumerates.siblings id id args fun i item hitem => ?_).congr
      fun path v => leafAt_iff.symm
    cases hitemArray : item.isArray with
    | false =>
      rw [leaves_of_not_isArray hitemArray]
      refine (Enumerates.singleton item).congr fun below v => ?_
      constructor
      · rintro ⟨hbelow, hv⟩
        exact .inl ⟨hbelow, hv, rfl⟩
      · rintro (⟨hbelow, hv, -⟩ | ⟨inner, rfl, -⟩)
        · exact ⟨hbelow, hv⟩
        · cases hitemArray
    | true =>
      obtain ⟨inner, rfl⟩ := exists_items_of_isArray hitemArray
      rw [leaves]
      refine (ih inner (List.mem_of_getElem? hitem)).congr fun below v => ?_
      constructor
      · exact fun h => .inr ⟨inner, rfl, h⟩
      · rintro (⟨-, -, hleaf⟩ | ⟨_, hinner, h⟩)
        · cases hleaf
        · cases hinner
          exact h

theorem isArray_of_mem_leavesOf {args : List Json} : ∀ v ∈ leavesOf args, v.isArray = false := by
  intro v hv
  obtain ⟨path, h⟩ := (enumerates_leavesOf args).mem_iff.1 hv
  exact h.isArray

/-- Nothing comes out only if there is no leaf, however many lists there are. -/
theorem leavesOf_ne_nil_iff {args : List Json} :
    leavesOf args ≠ [] ↔ ∃ path v, LeafAt args path v := by
  constructor
  · intro h
    obtain ⟨v, hv⟩ := List.exists_mem_of_ne_nil _ h
    obtain ⟨path, hleaf⟩ := (enumerates_leavesOf args).mem_iff.1 hv
    exact ⟨path, v, hleaf⟩
  · rintro ⟨path, v, hleaf⟩
    exact List.ne_nil_of_mem ((enumerates_leavesOf args).mem_iff.2 ⟨path, hleaf⟩)

theorem leavesOf_leavesOf (args : List Json) : leavesOf (leavesOf args) = leavesOf args :=
  leavesOf_of_plain isArray_of_mem_leavesOf

/-! ### Brackets -/

theorem Unwraps.leavesOf_eq {args other : List Json} (h : Unwraps args other) :
    leavesOf args = leavesOf other := by
  obtain ⟨before, items, after⟩ := h
  rw [leavesOf_append, leavesOf, leaves, leavesOf_append, leavesOf_append, List.append_assoc]

/-- Taking brackets away leads to the leaves, whatever stands around. -/
theorem reflTransGen_unwraps (args before after : List Json) :
    Relation.ReflTransGen Unwraps (before ++ args ++ after) (before ++ leavesOf args ++ after) := by
  induction args using nested_induction generalizing before after with
  | h args ih =>
    induction args generalizing before with
    | nil => exact .refl
    | cons v rest ihRest =>
      have hrest := ihRest fun inner hinner => ih inner (List.mem_cons_of_mem v hinner)
      cases hv : v.isArray with
      | false =>
        have hkept := hrest (before ++ [v])
        rw [leavesOf, leaves_of_not_isArray hv]
        simpa using hkept
      | true =>
        obtain ⟨items, rfl⟩ := exists_items_of_isArray hv
        have hbrackets := Unwraps.brackets before items (rest ++ after)
        have hitems := ih items List.mem_cons_self before (rest ++ after)
        have hbehind := hrest (before ++ leavesOf items)
        rw [leavesOf, leaves]
        simp only [List.append_assoc, List.cons_append] at hbrackets hitems hbehind ⊢
        exact .head hbrackets (hitems.trans hbehind)

/-- Values are flattened to the same list exactly if taking brackets away and putting some there
leads from one to the other. -/
theorem eqvGen_unwraps_iff {args other : List Json} :
    Relation.EqvGen Unwraps args other ↔ leavesOf args = leavesOf other := by
  constructor
  · intro h
    induction h with
    | rel _ _ h => exact h.leavesOf_eq
    | refl => rfl
    | symm _ _ _ ih => exact ih.symm
    | trans _ _ _ _ _ ih ih' => exact ih.trans ih'
  · intro h
    have hsteps : ∀ {args other}, Relation.ReflTransGen Unwraps args other →
        Relation.EqvGen Unwraps args other := by
      intro args other hsteps
      induction hsteps with
      | refl => exact .refl args
      | tail _ hstep ih => exact ih.trans _ _ _ (.rel _ _ hstep)
    have hleaves : ∀ args, Relation.EqvGen Unwraps args (leavesOf args) := by
      intro args
      have hbare := reflTransGen_unwraps args [] []
      simp only [List.nil_append, List.append_nil] at hbare
      exact hsteps hbare
    exact (hleaves args).trans _ _ _ (h ▸ (hleaves other).symm)

end Json

end ChartSpec
