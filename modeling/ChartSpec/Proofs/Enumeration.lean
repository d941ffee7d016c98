import Mathlib.Data.List.Induction

/-!
# Enumerations

What a tree holds stands at addresses.  An address is the list of the steps that lead there, and
addresses are ordered by the first step in which they differ; where one goes on and the other ends,
the one that ends comes first.  A list enumerates a tree if it holds what stands at each address,
once for each and in their order.

The enumerations of the parts of a tree make one of the tree (`Enumerates.cons`,
`Enumerates.append`, `Enumerates.siblings`).
-/

namespace ChartSpec

/-- The list holds what stands at each address, in the order of the addresses. -/
def Enumerates {σ α : Type} [LT σ] (stands : List σ → α → Prop) (xs : List α) : Prop :=
  ∃ entries : List (List σ × α), entries.map Prod.snd = xs ∧
    entries.Pairwise (fun e e' => e.1 < e'.1) ∧ ∀ a x, (a, x) ∈ entries ↔ stands a x

namespace Enumerates

variable {σ α β : Type} [LT σ] {stands other : List σ → α → Prop} {xs ys : List α}

theorem congr (h : Enumerates stands xs) (heq : ∀ a x, stands a x ↔ other a x) :
    Enumerates other xs := by
  obtain ⟨entries, hmap, hsorted, hmem⟩ := h
  exact ⟨entries, hmap, hsorted, fun a x => (hmem a x).trans (heq a x)⟩

theorem nil : Enumerates (fun (_ : List σ) (_ : α) => False) [] :=
  ⟨[], rfl, .nil, by simp⟩

/-- One thing at the root, and nothing else. -/
theorem singleton (y : α) : Enumerates (fun (a : List σ) x => a = [] ∧ x = y) [y] :=
  ⟨[([], y)], rfl, List.pairwise_singleton _ _, by simp⟩

/-- Whatever is enumerated has an address. -/
theorem mem_iff (h : Enumerates stands xs) {x : α} : x ∈ xs ↔ ∃ a, stands a x := by
  obtain ⟨entries, rfl, -, hmem⟩ := h
  simp [hmem]

/-- What stands before comes first. -/
theorem append (h : Enumerates stands xs) (h' : Enumerates other ys)
    (hbefore : ∀ a x b y, stands a x → other b y → a < b) :
    Enumerates (fun a x => stands a x ∨ other a x) (xs ++ ys) := by
  obtain ⟨entries, rfl, hsorted, hmem⟩ := h
  obtain ⟨entries', rfl, hsorted', hmem'⟩ := h'
  refine ⟨entries ++ entries', List.map_append, ?_, ?_⟩
  · refine List.pairwise_append.2 ⟨hsorted, hsorted', ?_⟩
    rintro ⟨a, x⟩ he ⟨b, y⟩ he'
    exact hbefore a x b y ((hmem a x).1 he) ((hmem' b y).1 he')
  · intro a x
    rw [List.mem_append, hmem, hmem']

/-- What stands at the root comes before what stands below it. -/
theorem cons (y : α) (h : Enumerates stands xs) (hbelow : ∀ a x, stands a x → a ≠ []) :
    Enumerates (fun a x => (a = [] ∧ x = y) ∨ stands a x) (y :: xs) := by
  refine (singleton y).append h ?_
  rintro _ _ b z ⟨rfl, -⟩ hz
  obtain ⟨s, rest, rfl⟩ := List.exists_cons_of_ne_nil (hbelow b z hz)
  exact List.Lex.nil

/-- What stands behind one step. -/
theorem under (step : σ) (h : Enumerates stands xs) :
    Enumerates (fun a x => ∃ b, a = step :: b ∧ stands b x) xs := by
  obtain ⟨entries, rfl, hsorted, hmem⟩ := h
  refine ⟨entries.map fun e => (step :: e.1, e.2), by simp [Function.comp_def], ?_, ?_⟩
  · exact List.pairwise_map.2 (hsorted.imp fun hlt => List.Lex.cons hlt)
  · intro a x
    simp only [List.mem_map, Prod.mk.injEq, Prod.exists, hmem]
    constructor
    · rintro ⟨b, y, hb, rfl, rfl⟩
      exact ⟨b, rfl, hb⟩
    · rintro ⟨b, rfl, hb⟩
      exact ⟨b, x, hb, rfl, rfl⟩

/-- Siblings one after the other, each behind the step of its position. -/
theorem siblings (step : Nat → σ) (hstep : ∀ {i j}, i < j → step i < step j)
    {inner : Nat → β → List σ → α → Prop} {block : Nat → β → List α} (ms : List β)
    (h : ∀ i m, ms[i]? = some m → Enumerates (inner i m) (block i m)) :
    Enumerates (fun a x => ∃ i m b, ms[i]? = some m ∧ a = step i :: b ∧ inner i m b x)
      (ms.mapIdx block).flatten := by
  induction ms using List.reverseRecOn with
  | nil => exact nil.congr (by simp)
  | append_singleton ms m ih =>
    have hold : ∀ (i : Nat) (m' : β), ms[i]? = some m' → (ms ++ [m])[i]? = some m' := by
      intro i m' hi
      rw [List.getElem?_append_left (List.getElem?_eq_some_iff.1 hi).1, hi]
    have hlast : Enumerates (inner ms.length m) (block ms.length m) :=
      h ms.length m List.getElem?_concat_length
    have hfirst := ih fun i m' hi => h i m' (hold i m' hi)
    have hboth := hfirst.append (hlast.under (step ms.length)) <| by
      rintro _ _ _ _ ⟨i, m', b, hi, rfl, -⟩ ⟨b', rfl, -⟩
      exact List.Lex.rel (hstep (List.getElem?_eq_some_iff.1 hi).1)
    have hblocks : ((ms ++ [m]).mapIdx block).flatten =
        (ms.mapIdx block).flatten ++ block ms.length m := by
      rw [List.mapIdx_append, List.flatten_append]
      simp
    rw [hblocks]
    refine hboth.congr fun a x => ?_
    constructor
    · rintro (⟨i, m', b, hi, rfl, hb⟩ | ⟨b, rfl, hb⟩)
      · exact ⟨i, m', b, hold i m' hi, rfl, hb⟩
      · exact ⟨ms.length, m, b, List.getElem?_concat_length, rfl, hb⟩
    · rintro ⟨i, m', b, hi, rfl, hb⟩
      rw [List.getElem?_append] at hi
      split at hi
      · exact .inl ⟨i, m', b, hi, rfl, hb⟩
      · rename_i hlen
        obtain ⟨hzero, rfl⟩ : i - ms.length = 0 ∧ m = m' := by
          simpa [List.getElem?_singleton] using hi
        obtain rfl : i = ms.length := by omega
        exact .inr ⟨b, rfl, hb⟩

/-- Siblings that hold nothing. -/
theorem map (step : Nat → σ) (hstep : ∀ {i j}, i < j → step i < step j) (f : β → α)
    (ms : List β) :
    Enumerates (fun a x => ∃ i m, ms[i]? = some m ∧ a = [step i] ∧ x = f m) (ms.map f) := by
  have hblocks : (ms.mapIdx fun _ m => [f m]).flatten = ms.map f := by
    induction ms with
    | nil => rfl
    | cons m ms ih => rw [List.mapIdx_cons, List.flatten_cons, ih, List.map_cons]; rfl
  rw [← hblocks]
  refine (siblings step hstep ms fun i m _ => singleton (f m)).congr fun a x => ?_
  constructor
  · rintro ⟨i, m, _, hi, rfl, rfl, rfl⟩
    exact ⟨i, m, hi, rfl, rfl⟩
  · rintro ⟨i, m, hi, rfl, rfl⟩
    exact ⟨i, m, [], hi, rfl, rfl, rfl⟩

end Enumerates

end ChartSpec
