import ChartSpec.Proofs.Agreement
import ChartSpec.Proofs.Stability

/-!
# Steps in either order

If one step succeeds both behind another and in its place, then neither reads what the other
made, and their names differ.  So they may be taken in either order: they make the same parts,
and the two registries list the same and answer alike ever after (`Context.build_comm`).

There is one way for a step to hang on another and yet to succeed without it: an edit that names
a scale, and that is dropped as long as there is none (`Step.Awaits`).  Such a step makes another
part behind the scale than in its place (`Context.build_comm_awaited`).  A step that drops no edits
awaits nothing.
-/

namespace ChartSpec

/-- Two parts have the same name, and it must be unique among both. -/
def Part.Clashes (a b : Part) : Prop := ∃ key, a.key? = some key ∧ b.key? = some key

/-- A step drops an edit when the edit is refused, and the edit names the scale that a part is. -/
def Step.Awaits (step : Step) (part : Part) : Prop :=
  ∃ e ∈ step.edits, e.lenient ∧
    ∃ name, e.value.scale = some (.name name) ∧ part.key? = some (.scale, name)

/-! ## Lemmas -/

theorem Part.Clashes.symm {a b : Part} (h : a.Clashes b) : b.Clashes a := by
  obtain ⟨key, ha, hb⟩ := h
  exact ⟨key, hb, ha⟩

theorem Part.key?_of_data? {part : Part} {name : String} {d : Data}
    (h : (part.data?.filter fun d => d.name == name) = some d) :
    part.key? = some (.data, name) := by
  obtain ⟨hpart, hname⟩ := Option.filter_eq_some_iff.1 h
  cases part with
  | data d' =>
    cases hpart
    rw [key?, beq_iff_eq.1 hname]
  | _ => cases hpart

theorem Part.key?_of_scale? {part : Part} {name : String} {s : Scale}
    (h : (part.scale?.filter fun s => s.name == name) = some s) :
    part.key? = some (.scale, name) := by
  obtain ⟨hpart, hname⟩ := Option.filter_eq_some_iff.1 h
  cases part with
  | scale s' =>
    cases hpart
    rw [key?, beq_iff_eq.1 hname]
  | _ => cases hpart

/-- Edits that do not await a part are settled whether it is listed or not. -/
theorem Step.settled_put {step : Step} {part : Part} (h : ¬ step.Awaits part) (r : Registry) :
    ∀ e ∈ step.edits, e.Settled r (r.put part) := by
  intro e he hlenient name hname
  have hother : (part.scale?.filter fun s => s.name == name) = none := by
    by_contra hsome
    obtain ⟨s, hs⟩ := Option.ne_none_iff_exists'.1 hsome
    exact h ⟨e, he, hlenient, name, hname, Part.key?_of_scale? hs⟩
  rw [Registry.findScale?_put, hother, Option.or_none]

namespace Registry

variable {r : Registry} {a b : Part}

/-- A name is free behind another part if it was free before and is not the name of the part. -/
theorem checkFree_put {u : Unit} :
    (r.put a).checkFree b = .ok u ↔ r.checkFree b = .ok () ∧ ¬ a.Clashes b := by
  simp only [checkFree_eq_ok, count_put, Nat.add_eq_zero_iff, Part.Clashes, not_exists, not_and]
  constructor
  · intro h
    refine ⟨fun key hkey => (h key hkey).1, fun key ha hb => ?_⟩
    have hone := (h key hb).2
    simp [ha] at hone
  · rintro ⟨hfree, hclash⟩ key hkey
    exact ⟨hfree key hkey, if_neg fun ha => hclash key ha hkey⟩

/-- Of two answers that are not both there, it does not matter which comes first. -/
theorem or_right_comm {α : Type} {x y z : Option α} (h : y = none ∨ z = none) :
    (x.or y).or z = (x.or z).or y := by
  rcases h with rfl | rfl
  · rw [Option.or_none, Option.or_none]
  · rw [Option.or_none, Option.or_none]

/-- Parts with different names may be listed in either order. -/
theorem agrees_put_put (h : ¬ a.Clashes b) : ((r.put a).put b).Agrees ((r.put b).put a) := by
  refine ⟨?_, ?_, ?_⟩
  · funext name
    rw [findData?_put, findData?_put, findData?_put, findData?_put]
    refine or_right_comm ?_
    by_contra hboth
    obtain ⟨ha, hb⟩ := not_or.1 hboth
    obtain ⟨d, ha⟩ := Option.ne_none_iff_exists'.1 ha
    obtain ⟨d', hb⟩ := Option.ne_none_iff_exists'.1 hb
    exact h ⟨(.data, name), Part.key?_of_data? ha, Part.key?_of_data? hb⟩
  · funext name
    rw [findScale?_put, findScale?_put, findScale?_put, findScale?_put]
    refine or_right_comm ?_
    by_contra hboth
    obtain ⟨ha, hb⟩ := not_or.1 hboth
    obtain ⟨s, ha⟩ := Option.ne_none_iff_exists'.1 ha
    obtain ⟨s', hb⟩ := Option.ne_none_iff_exists'.1 hb
    exact h ⟨(.scale, name), Part.key?_of_scale? ha, Part.key?_of_scale? hb⟩
  · funext kind name
    rw [count_put, count_put, count_put, count_put, Nat.add_right_comm]

theorem permuted_put_put : ((r.put a).put b).Permuted ((r.put b).put a) := by
  have hswap : ∀ {α : Type} (xs ys zs : List α), ((xs ++ ys) ++ zs).Perm ((xs ++ zs) ++ ys) := by
    intro α xs ys zs
    rw [List.append_assoc, List.append_assoc]
    exact List.perm_append_comm.append_left xs
  rw [put_eq, put_eq, put_eq, put_eq]
  exact ⟨hswap _ _ _, hswap _ _ _, hswap _ _ _, hswap _ _ _, hswap _ _ _⟩

end Registry

namespace Context

/-- A step that succeeds makes the same part behind a part that it does not await. -/
theorem make_put {c c' : Context} {step : Step} {part other : Part}
    (hother : ¬ step.Awaits other) (hbuild : c.build step = .ok (c', part)) :
    step.make c.config (c.registry.put other) = .ok part :=
  Step.make_of_grows (c.registry.grows_put other) (Step.settled_put hother c.registry)
    (build_eq_ok.1 hbuild).1

/-! ## Top theorem -/

/-- Let two steps be taken one after the other, let the second succeed in place of the first as
well, and let neither await what the other makes.  Then they succeed in the other order, with the
same parts; the lists of the registry are the same up to order, and all steps to come return the
same. -/
theorem build_comm {c c₁ c₂ c₃ : Context} {A B : Step} {a b b' : Part}
    (hA : c.build A = .ok (c₁, a)) (hAB : c₁.build B = .ok (c₂, b))
    (hB : c.build B = .ok (c₃, b')) (hAb : ¬ A.Awaits b') (hBa : ¬ B.Awaits a) :
    b' = b ∧ ∃ c₄, c₃.build A = .ok (c₄, a) ∧ c₂.registry.Permuted c₄.registry ∧
      ∀ later, c₂.results later = c₄.results later := by
  obtain ⟨-, hfreeA, rfl⟩ := build_eq_ok.1 hA
  obtain ⟨hmakeB, hfreeB, rfl⟩ := build_eq_ok.1 hAB
  obtain ⟨-, -, rfl⟩ := build_eq_ok.1 hB
  -- Neither step finds more or less behind the other's part.
  have hsame : b' = b := by
    rw [make_put hBa hB] at hmakeB
    exact Except.ok.inj hmakeB
  subst hsame
  have hclash : ¬ a.Clashes b' := (Registry.checkFree_put.1 hfreeB).2
  have hfreeA' : (c.registry.put b').checkFree a = .ok () :=
    Registry.checkFree_put.2 ⟨hfreeA, fun h => hclash h.symm⟩
  refine ⟨rfl, { c with registry := (c.registry.put b').put a }, ?_, ?_, ?_⟩
  · exact build_eq_ok.2 ⟨make_put hAb hA, hfreeA', rfl⟩
  · exact Registry.permuted_put_put
  · exact results_eq_of_agrees rfl (Registry.agrees_put_put hclash)

/-- A context with a table. -/
def table : Context := after {} (.data "table" [.values (.arr [.obj [("price", .int 1)]])])

/-- A scale over the prices of the table. -/
def priceScale : Step := .scale "x" .linear [.domain (.reference "table.price")]

/-- A mark for each record of the table, drawn at a value if it is not refused. -/
def lenientMark (value : ValueSpec) : Step :=
  .mark .symbol [
    .fromData "table",
    .style .enter [{ key := .channel .x, value, lenient := true }]]

theorem build_comm_lenientMark :
    ∃ c₁ c₂ c₃ a b,
      table.build priceScale = .ok (c₁, a) ∧
      c₁.build (lenientMark { field := some "price" }) = .ok (c₂, b) ∧
      table.build (lenientMark { field := some "price" }) = .ok (c₃, b) ∧
      ∃ c₄, c₃.build priceScale = .ok (c₄, a) ∧ c₂.registry.Permuted c₄.registry ∧
        ∀ later, c₂.results later = c₄.results later := by
  have hscale : ∀ part, ¬ priceScale.Awaits part := by
    rintro part ⟨e, he, -⟩
    cases he
  have hmark : ∀ part, ¬ (lenientMark { field := some "price" }).Awaits part := by
    rintro part ⟨e, he, -, name, hname, -⟩
    obtain rfl := List.mem_singleton.1 he
    cases hname
  refine ⟨_, _, _, _, _, rfl, rfl, rfl, ?_⟩
  exact (build_comm (c := table) (A := priceScale) (B := lenientMark { field := some "price" })
    rfl rfl rfl (hscale _) (hmark _)).2

/-- Steps that all succeed do not commute if the second drops an edit for want of what the first
makes: in its place it makes a mark without the scale. -/
theorem build_comm_awaited :
    ∃ c₁ c₂ c₃ c₄ a b b',
      table.build priceScale = .ok (c₁, a) ∧
      c₁.build (lenientMark { scale := some (.name "x") }) = .ok (c₂, b) ∧
      table.build (lenientMark { scale := some (.name "x") }) = .ok (c₃, b') ∧
      c₃.build priceScale = .ok (c₄, a) ∧ b' ≠ b := by
  refine ⟨_, _, _, _, _, _, _, rfl, rfl, rfl, rfl, fun hsame => ?_⟩
  have hnames := congrArg (fun part => part.mark?.map Mark.scaleNames) hsame
  cases (show some [] = some ["x"] from hnames)

end Context

end ChartSpec
