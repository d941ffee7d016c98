import ChartSpec.Proofs.Agreement
import Mathlib.Data.List.Nodup

/-!
# Registries as maps

Parts are registered one after the other.  A part whose kind and name have been accepted before
is refused; all others are accepted.  What a registry lists and what it answers is what a map
would that keeps the order of insertion and never overwrites (`Registry.enterAll_accepted`):

    registration        answer      found afterwards
    data a              accepted    data a
    scale a             accepted    data a, scale a
    data a              refused     data a, scale a
    mark, no name       accepted    data a, scale a
    mark a              accepted    data a, scale a, mark a
-/

namespace ChartSpec

namespace Registry

/-- Registers a part behind the others of its kind.  Visualizations are not listed. -/
def accept (r : Registry) : Part → Except Error Registry
  | .data d => r.registerData d
  | .scale s => r.registerScale s
  | .mark m => r.registerMark m
  | .transform t => .ok (r.registerTransform t)
  | .axis a => .ok (r.registerAxis a)
  | .visualization _ => .ok r

/-- The registry after a registration, which may have been refused. -/
def enter (r : Registry) (part : Part) : Registry :=
  match r.accept part with
  | .ok r' => r'
  | .error _ => r

def enterAll (r : Registry) (parts : List Part) : Registry := parts.foldl enter r

/-- Those of some parts that are accepted when all are registered one after the other. -/
def accepted (r : Registry) : List Part → List Part
  | [] => []
  | part :: rest =>
    match r.accept part with
    | .ok r' => part :: r'.accepted rest
    | .error _ => r.accepted rest

/-- The registry lists some parts in their order, no two of which have the same kind and name. -/
structure Enumerates (r : Registry) (kept : List Part) : Prop where
  data : r.data = kept.filterMap Part.data?
  scales : r.scales = kept.filterMap Part.scale?
  marks : r.marks = kept.filterMap Part.mark?
  transforms : r.transforms = kept.filterMap Part.transform?
  axes : r.axes = kept.filterMap Part.axis?
  nodup : (kept.filterMap Part.key?).Nodup

/-- The registry answers from some parts as a map from their kinds and names would. -/
structure AnswersFrom (r : Registry) (kept : List Part) : Prop where
  accepts : ∀ part, (∃ r', r.accept part = .ok r') ↔
    ∀ key ∈ part.key?, ∀ earlier ∈ kept, earlier.key? ≠ some key
  refuses : ∀ part key, part.key? = some key → (∃ earlier ∈ kept, earlier.key? = some key) →
    r.accept part = .error (.refused (.duplicateName key.1 key.2)) ∧ r.enter part = r
  count_le_one : ∀ kind name, r.count kind name ≤ 1
  count_eq_one : ∀ kind name, r.count kind name = 1 ↔ ∃ part ∈ kept, part.key? = some (kind, name)
  noDuplicate : ∀ kind name, r.isDuplicate kind name = false
  findData : ∀ name d, r.findData? name = some d ↔ .data d ∈ kept ∧ d.name = name
  findScale : ∀ name s, r.findScale? name = some s ↔ .scale s ∈ kept ∧ s.name = name
  findMark : ∀ name m, r.findMark? name = some m ↔ .mark m ∈ kept ∧ m.name = some name
  expectData : ∀ name, r.expectData name =
    match r.findData? name with
    | some d => .ok d
    | none => .error (.refused (.notRegistered .data name))
  expectScale : ∀ name, r.expectScale name =
    match r.findScale? name with
    | some s => .ok s
    | none => .error (.refused (.notRegistered .scale name))

end Registry

/-! ## Lemmas -/

namespace Part

variable {part : Part}

theorem data?_eq_some {d : Data} : part.data? = some d ↔ part = .data d := by
  cases part <;> simp [data?]

theorem scale?_eq_some {s : Scale} : part.scale? = some s ↔ part = .scale s := by
  cases part <;> simp [scale?]

theorem mark?_eq_some {m : Mark} : part.mark? = some m ↔ part = .mark m := by
  cases part <;> simp [mark?]

end Part

namespace Registry

variable {r r' : Registry} {kept : List Part} {part : Part}

/-! ### Registering a part -/

/-- A part of any kind is registered in two steps: its name must be free, then it is listed. -/
theorem accept_eq (r : Registry) (part : Part) : r.accept part = do
    r.checkFree part
    return r.put part := by
  cases part with
  | mark m => cases h : m.name <;> simp [accept, registerMark, checkFree, Part.key?, h, put]
  | data | scale | transform | axis | visualization => rfl

theorem accept_eq_ok : r.accept part = .ok r' ↔ r.checkFree part = .ok () ∧ r' = r.put part := by
  simp only [accept_eq, bind_eq_ok, pure_eq_ok, eq_comm (a := r.put part)]
  constructor
  · rintro ⟨_, hfree⟩
    exact hfree
  · intro hfree
    exact ⟨(), hfree⟩

theorem enter_of_ok (h : r.accept part = .ok r') : r.enter part = r' := by rw [enter, h]

theorem enter_of_error {error : Error} (h : r.accept part = .error error) : r.enter part = r := by
  rw [enter, h]

/-! ### Finding the only one -/

/-- If at most one element has a property, it is found wherever it stands. -/
theorem find?_eq_some_iff_of_countP {α : Type} {p : α → Bool} {xs : List α} {x : α}
    (h : xs.countP p ≤ 1) : xs.find? p = some x ↔ x ∈ xs ∧ p x = true := by
  refine ⟨fun hfound => ⟨List.mem_of_find?_eq_some hfound, List.find?_some hfound⟩, ?_⟩
  rintro ⟨hx, hp⟩
  induction xs with
  | nil => cases hx
  | cons y ys ih =>
    by_cases hy : p y = true
    · -- The first element has the property, so no other one has it.
      rw [List.countP_cons_of_pos hy] at h
      have hnone : ys.countP p = 0 := by omega
      rcases List.mem_cons.1 hx with rfl | hx
      · exact List.find?_cons_of_pos hy
      · exact absurd hp (List.countP_eq_zero.1 hnone x hx)
    · rw [List.countP_cons_of_neg hy] at h
      rcases List.mem_cons.1 hx with rfl | hx
      · exact absurd hp hy
      · rw [List.find?_cons_of_neg hy]
        exact ih h hx

namespace Enumerates

theorem empty : Enumerates {} [] := ⟨rfl, rfl, rfl, rfl, rfl, List.nodup_nil⟩

theorem count_eq (h : r.Enumerates kept) (kind : EntityKind) (name : String) :
    r.count kind name = (kept.filterMap Part.key?).count (kind, name) := by
  -- Both sides count the parts that have a property, and it is the same one for every part.
  have hkey : ∀ part : Part, (part.key?.map (· == (kind, name))).getD false =
      decide (part.key? = some (kind, name)) := by
    intro part
    cases part.key? <;> simp [beq_eq_decide]
  rw [List.count_eq_countP, List.countP_filterMap]
  simp only [hkey]
  cases kind with
  | data =>
    rw [count, h.data, List.countP_filterMap]
    refine List.countP_congr fun part _ => ?_
    cases part <;> simp [Part.data?, Part.key?]
  | scale =>
    rw [count, h.scales, List.countP_filterMap]
    refine List.countP_congr fun part _ => ?_
    cases part <;> simp [Part.scale?, Part.key?]
  | mark =>
    rw [count, h.marks, List.countP_filterMap]
    refine List.countP_congr fun part _ => ?_
    cases part <;> simp [Part.mark?, Part.key?]
  | transform | axis =>
    refine (List.countP_eq_zero.2 fun part _ => ?_).symm
    cases part <;> simp [Part.key?]

theorem count_le_one (h : r.Enumerates kept) (kind : EntityKind) (name : String) :
    r.count kind name ≤ 1 := by
  rw [h.count_eq]
  exact List.nodup_iff_count_le_one.1 h.nodup (kind, name)

theorem checkFree_iff (h : r.Enumerates kept) :
    r.checkFree part = .ok () ↔ ∀ key ∈ part.key?, key ∉ kept.filterMap Part.key? := by
  rw [checkFree_eq_ok]
  refine forall₂_congr fun key _ => ?_
  rw [h.count_eq, List.count_eq_zero]

/-- A registry that lists a part with a new name lists it last. -/
theorem put (h : r.Enumerates kept) (hfree : r.checkFree part = .ok ()) :
    (r.put part).Enumerates (kept ++ [part]) := by
  have hkeys : (kept.filterMap Part.key? ++ part.key?.toList).Nodup := by
    cases hkey : part.key? with
    | none => simpa using h.nodup
    | some key =>
      have hnew := h.checkFree_iff.1 hfree key hkey
      exact List.nodup_append.2 ⟨h.nodup, by simp, by
        rintro a ha b hb rfl
        exact hnew (List.mem_singleton.1 hb ▸ ha)⟩
  have happend : ∀ {α : Type} (f : Part → Option α),
      (kept ++ [part]).filterMap f = kept.filterMap f ++ (f part).toList := by
    intro α f
    rw [List.filterMap_append]
    cases hf : f part <;> simp [hf]
  rw [put_eq]
  exact {
    data := by rw [happend, h.data]
    scales := by rw [happend, h.scales]
    marks := by rw [happend, h.marks]
    transforms := by rw [happend, h.transforms]
    axes := by rw [happend, h.axes]
    nodup := by rwa [happend] }

/-- What registrations accept comes behind what was there. -/
theorem enterAll (h : r.Enumerates kept) (parts : List Part) :
    (r.enterAll parts).Enumerates (kept ++ r.accepted parts) := by
  induction parts generalizing r kept with
  | nil => rwa [accepted, List.append_nil]
  | cons part rest ih =>
    show ((r.enter part).enterAll rest).Enumerates _
    rw [accepted]
    cases haccept : r.accept part with
    | error error =>
      rw [enter_of_error haccept]
      exact ih h
    | ok r' =>
      obtain ⟨hfree, rfl⟩ := accept_eq_ok.1 haccept
      rw [enter_of_ok haccept, List.append_cons]
      exact ih (h.put hfree)

/-! ### Asking for parts -/

theorem mem_data (h : r.Enumerates kept) {d : Data} : d ∈ r.data ↔ .data d ∈ kept := by
  simp [h.data, List.mem_filterMap, Part.data?_eq_some]

theorem mem_scales (h : r.Enumerates kept) {s : Scale} : s ∈ r.scales ↔ .scale s ∈ kept := by
  simp [h.scales, List.mem_filterMap, Part.scale?_eq_some]

theorem mem_marks (h : r.Enumerates kept) {m : Mark} : m ∈ r.marks ↔ .mark m ∈ kept := by
  simp [h.marks, List.mem_filterMap, Part.mark?_eq_some]

/-- All answers follow from what is listed, since no two parts have the same kind and name. -/
theorem answersFrom (h : r.Enumerates kept) : r.AnswersFrom kept where
  accepts part := by
    simp only [accept_eq_ok, exists_and_left, exists_eq, and_true, h.checkFree_iff,
      List.mem_filterMap, not_exists, not_and]
  refuses part key hkey htaken := by
    have htaken : key ∈ kept.filterMap Part.key? := List.mem_filterMap.2 htaken
    have hcount : r.count key.1 key.2 ≠ 0 := by
      rw [h.count_eq]
      exact Nat.ne_of_gt (List.count_pos_iff.2 htaken)
    have hrefused : r.accept part = .error (.refused (.duplicateName key.1 key.2)) := by
      rw [accept_eq, checkFree, hkey]
      show (r.checkUnique key.1 key.2 >>= fun _ => _) = _
      rw [checkUnique, if_neg hcount]
      rfl
    exact ⟨hrefused, enter_of_error hrefused⟩
  count_le_one := h.count_le_one
  count_eq_one kind name := by
    have hle := h.count_le_one kind name
    rw [h.count_eq] at hle ⊢
    rw [← List.mem_filterMap, ← List.one_le_count_iff]
    omega
  noDuplicate kind name := by
    have hle := h.count_le_one kind name
    exact decide_eq_false (by omega)
  findData name d := by
    rw [findData?, find?_eq_some_iff_of_countP (h.count_le_one .data name), h.mem_data, beq_iff_eq]
  findScale name s := by
    rw [findScale?, find?_eq_some_iff_of_countP (h.count_le_one .scale name), h.mem_scales,
      beq_iff_eq]
  findMark name m := by
    rw [findMark?, find?_eq_some_iff_of_countP (h.count_le_one .mark name), h.mem_marks,
      beq_iff_eq]
  expectData name := by
    rw [Registry.expectData]
    cases r.findData? name <;> rfl
  expectScale name := by
    rw [Registry.expectScale]
    cases r.findScale? name <;> rfl

end Enumerates

/-! ## Top theorem -/

/-- After any registrations, of which some may have been refused, the registry lists the accepted
parts in order, no two with the same kind and name, and answers from them as a map would: it
refuses a part exactly if one of its kind and name has been accepted, and then stays as it is;
it counts at most one part under a kind and a name; under a name it finds the data set, scale or
mark that has been accepted, and nothing else.  Parts without a name are never refused nor found. -/
theorem enterAll_accepted (parts : List Part) :
    (enterAll {} parts).Enumerates (accepted {} parts) ∧
      (enterAll {} parts).AnswersFrom (accepted {} parts) := by
  have hlists : (enterAll {} parts).Enumerates (accepted {} parts) := by
    simpa using Enumerates.empty.enterAll parts
  exact ⟨hlists, hlists.answersFrom⟩

end Registry

end ChartSpec
