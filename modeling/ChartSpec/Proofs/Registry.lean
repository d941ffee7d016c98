import ChartSpec.Axis.Build
import ChartSpec.Data.Build
import ChartSpec.Proofs.Result
import ChartSpec.Scale.Build

/-!
# Growth of a registry

A registry is asked for parts by name and answers with parts that it lists.  A part is registered
at the end of its list, so that what a registry lists stays where it is (`Registry.Grows`).
-/

namespace ChartSpec

namespace Registry

def dataNames (r : Registry) : List String := r.data.map Data.name

def scaleNames (r : Registry) : List String := r.scales.map Scale.name

def markNames (r : Registry) : List String := r.marks.filterMap Mark.name

/-- The registry after an attempt, which may have failed. -/
def after {ε α : Type} (r : Registry) : Except ε (Registry × α) → Registry
  | .ok (r', _) => r'
  | .error _ => r

/-- The later registry lists what the earlier one lists, at the same places. -/
structure Grows (r r' : Registry) : Prop where
  data : r.data <+: r'.data
  scales : r.scales <+: r'.scales
  marks : r.marks <+: r'.marks
  transforms : r.transforms <+: r'.transforms
  axes : r.axes <+: r'.axes

/-! ## Lemmas -/

/-! ### Looking up -/

variable {r r' : Registry} {name : String}

theorem expectData_eq_ok {d : Data} : r.expectData name = .ok d ↔ r.findData? name = some d :=
  demand_eq_ok

theorem mem_of_findData? {d : Data} (h : r.findData? name = some d) :
    d ∈ r.data ∧ d.name = name := by
  have hname := List.find?_some h
  exact ⟨List.mem_of_find?_eq_some h, beq_iff_eq.1 hname⟩

theorem mem_dataNames_of_findData? {d : Data} (h : r.findData? name = some d) :
    name ∈ r.dataNames := by
  obtain ⟨hd, hname⟩ := mem_of_findData? h
  exact List.mem_map.2 ⟨d, hd, hname⟩

/-- Among parts whose names differ, each is found under its name. -/
theorem find?_name_of_mem {α : Type} {key : α → String} {parts : List α} {part : α}
    (hnodup : (parts.map key).Nodup) (hpart : part ∈ parts) :
    parts.find? (fun p => key p == key part) = some part := by
  induction parts with
  | nil => cases hpart
  | cons p rest ih =>
    obtain ⟨hfresh, hnodup⟩ := List.nodup_cons.1 hnodup
    rcases List.mem_cons.1 hpart with rfl | hpart
    · simp
    · have hne : key p ≠ key part := fun heq => hfresh (heq ▸ List.mem_map_of_mem hpart)
      rw [List.find?_cons_of_neg (by simpa using hne)]
      exact ih hnodup hpart

theorem findData?_of_mem {d : Data} (hnodup : r.dataNames.Nodup) (hd : d ∈ r.data) :
    r.findData? d.name = some d := find?_name_of_mem hnodup hd

theorem isSome_findData? : (r.findData? name).isSome = true ↔ name ∈ r.dataNames := by
  simp [findData?, dataNames, List.find?_isSome]

theorem isSome_known : (r.known name).isSome = true ↔ name ∈ r.dataNames := by
  rw [known, Option.isSome_map, isSome_findData?]

theorem expectScale_eq_ok {s : Scale} : r.expectScale name = .ok s ↔ r.findScale? name = some s :=
  demand_eq_ok

theorem mem_of_findScale? {s : Scale} (h : r.findScale? name = some s) :
    s ∈ r.scales ∧ s.name = name := by
  have hname := List.find?_some h
  exact ⟨List.mem_of_find?_eq_some h, beq_iff_eq.1 hname⟩

/-! ### Registering -/

theorem checkUnique_eq_ok {kind : EntityKind} {u : Unit} :
    r.checkUnique kind name = .ok u ↔ r.count kind name = 0 := by
  rw [checkUnique]
  split <;> simp_all

theorem count_data_eq_zero : r.count .data name = 0 ↔ name ∉ r.dataNames := by
  simp [count, dataNames, List.countP_eq_zero]

theorem count_scale_eq_zero : r.count .scale name = 0 ↔ name ∉ r.scaleNames := by
  simp [count, scaleNames, List.countP_eq_zero]

theorem count_mark_eq_zero : r.count .mark name = 0 ↔ name ∉ r.markNames := by
  simp [count, markNames, List.countP_eq_zero]

theorem registerData_eq_ok {d : Data} :
    r.registerData d = .ok r' ↔
      d.name ∉ r.dataNames ∧ r' = { r with data := r.data ++ [d] } := by
  simp only [registerData, bind_eq_ok, pure_eq_ok, checkUnique_eq_ok, count_data_eq_zero,
    exists_const]
  rw [eq_comm (b := r')]

theorem registerScale_eq_ok {s : Scale} :
    r.registerScale s = .ok r' ↔
      s.name ∉ r.scaleNames ∧ r' = { r with scales := r.scales ++ [s] } := by
  simp only [registerScale, bind_eq_ok, pure_eq_ok, checkUnique_eq_ok, count_scale_eq_zero,
    exists_const]
  rw [eq_comm (b := r')]

theorem registerMark_eq_ok {m : Mark} :
    r.registerMark m = .ok r' ↔
      (∀ n ∈ m.name, n ∉ r.markNames) ∧ r' = { r with marks := r.marks ++ [m] } := by
  simp only [registerMark, bind_eq_ok, pure_eq_ok, optionForM_eq_ok, checkUnique_eq_ok,
    count_mark_eq_zero, exists_const]
  rw [eq_comm (b := r')]

/-- A part is returned as it is, once its name is not blank and it has been registered. -/
theorem unlessBlank_eq_ok {α : Type} {blank : Bool} {error : Error} {x : Except Error Registry}
    {a a' : α} :
    (if blank then .error error else do return (← x, a)) = Except.ok (r', a') ↔
      blank = false ∧ x = .ok r' ∧ a' = a := by
  cases blank with
  | true => simp
  | false =>
    simp only [Bool.false_eq_true, if_false, bind_eq_ok, pure_eq_ok, Prod.mk.injEq, true_and]
    constructor
    · rintro ⟨_, hx, rfl, rfl⟩
      exact ⟨hx, rfl⟩
    · rintro ⟨hx, rfl⟩
      exact ⟨r', hx, rfl, rfl⟩

theorem addData_eq_ok {d d' : Data} :
    r.addData d = .ok (r', d') ↔ Text.isBlank d.name = false ∧ d.name ∉ r.dataNames ∧
      r' = { r with data := r.data ++ [d] } ∧ d' = d := by
  rw [addData, unlessBlank_eq_ok, registerData_eq_ok, and_assoc]

theorem addScale_eq_ok {s s' : Scale} :
    r.addScale s = .ok (r', s') ↔ Text.isBlank s.name = false ∧ s.name ∉ r.scaleNames ∧
      r' = { r with scales := r.scales ++ [s] } ∧ s' = s := by
  rw [addScale, unlessBlank_eq_ok, registerScale_eq_ok, and_assoc]

theorem addMark_eq_ok {m m' : Mark} :
    r.addMark m = .ok (r', m') ↔
      (∀ n ∈ m.name, Text.isBlank n = false) ∧ (∀ n ∈ m.name, n ∉ r.markNames) ∧
        r' = { r with marks := r.marks ++ [m] } ∧ m' = m := by
  have hblank : m.name.any Text.isBlank = false ↔ ∀ n ∈ m.name, Text.isBlank n = false := by
    cases m.name <;> simp
  rw [addMark, unlessBlank_eq_ok, registerMark_eq_ok, hblank, and_assoc]

theorem addAxis_eq_ok {a : AxisDraft} {axis : Axis} :
    r.addAxis a = .ok (r', axis) ↔
      a.finish = .ok axis ∧ r' = { r with axes := r.axes ++ [axis] } := by
  simp only [addAxis, registerAxis, bind_eq_ok, pure_eq_ok, Prod.mk.injEq]
  constructor
  · rintro ⟨_, hfinish, rfl, rfl⟩
    exact ⟨hfinish, rfl⟩
  · rintro ⟨hfinish, rfl⟩
    exact ⟨axis, hfinish, rfl, rfl⟩

theorem buildTransform_eq_ok {kind : TransformKind} {properties : Json} {t : Transform} :
    r.buildTransform kind properties = .ok (r', t) ↔
      Transform.ofProperties kind properties = .ok t ∧ t.validate r.known = .ok () ∧
        r' = { r with transforms := r.transforms ++ [t] } := by
  simp only [buildTransform, registerTransform, bind_eq_ok, inPlace_eq_ok, pure_eq_ok,
    Prod.mk.injEq]
  constructor
  · rintro ⟨_, hmade, _, hvalid, rfl, rfl⟩
    exact ⟨hmade, hvalid, rfl⟩
  · rintro ⟨hmade, hvalid, rfl⟩
    exact ⟨t, hmade, (), hvalid, rfl, rfl⟩

/-! ### Growing -/

theorem after_induction {P : Registry → Prop} {ε α : Type} {r : Registry}
    {x : Except ε (Registry × α)} (hr : P r) (hx : ∀ r' a, x = .ok (r', a) → P r') :
    P (r.after x) := by
  cases x with
  | error e => exact hr
  | ok p => exact hx p.1 p.2 rfl

namespace Grows

theorem refl (r : Registry) : r.Grows r :=
  ⟨List.prefix_rfl, List.prefix_rfl, List.prefix_rfl, List.prefix_rfl, List.prefix_rfl⟩

theorem trans {r'' : Registry} (h : r.Grows r') (h' : r'.Grows r'') : r.Grows r'' :=
  ⟨h.data.trans h'.data, h.scales.trans h'.scales, h.marks.trans h'.marks,
    h.transforms.trans h'.transforms, h.axes.trans h'.axes⟩

theorem dataNames_subset (h : r.Grows r') : r.dataNames ⊆ r'.dataNames :=
  (h.data.map Data.name).subset

theorem scaleNames_subset (h : r.Grows r') : r.scaleNames ⊆ r'.scaleNames :=
  (h.scales.map Scale.name).subset

end Grows

theorem grows_addData {d d' : Data} (h : r.addData d = .ok (r', d')) : r.Grows r' := by
  obtain ⟨-, -, rfl, -⟩ := addData_eq_ok.1 h
  exact { Grows.refl r with data := List.prefix_append _ _ }

theorem grows_addScale {s s' : Scale} (h : r.addScale s = .ok (r', s')) : r.Grows r' := by
  obtain ⟨-, -, rfl, -⟩ := addScale_eq_ok.1 h
  exact { Grows.refl r with scales := List.prefix_append _ _ }

theorem grows_addMark {m m' : Mark} (h : r.addMark m = .ok (r', m')) : r.Grows r' := by
  obtain ⟨-, -, rfl, -⟩ := addMark_eq_ok.1 h
  exact { Grows.refl r with marks := List.prefix_append _ _ }

theorem grows_addAxis {a : AxisDraft} {axis : Axis} (h : r.addAxis a = .ok (r', axis)) :
    r.Grows r' := by
  obtain ⟨-, rfl⟩ := addAxis_eq_ok.1 h
  exact { Grows.refl r with axes := List.prefix_append _ _ }

theorem grows_buildTransform {kind : TransformKind} {properties : Json} {t : Transform}
    (h : r.buildTransform kind properties = .ok (r', t)) : r.Grows r' := by
  obtain ⟨-, -, rfl⟩ := buildTransform_eq_ok.1 h
  exact { Grows.refl r with transforms := List.prefix_append _ _ }

end Registry

end ChartSpec
