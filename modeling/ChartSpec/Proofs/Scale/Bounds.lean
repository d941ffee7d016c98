import ChartSpec.Proofs.Document.Parts
import ChartSpec.Proofs.Mark.Context
import ChartSpec.Proofs.Scale.Calls

/-!
# Bounds in the document

The two bounds of a domain are set together and kept together.  The document has a key for each
that is no JSON null, and null is accepted as a bound:

    lower    upper    in the document
    0        10       domainMin, domainMax
    null     null     (nothing)
    null     10       domainMax

So the keys come in pairs exactly if the last call that gives bounds gives null for both or for
none (`Scale.bounds_paired_iff`).
-/

namespace ChartSpec

/-- The inputs of the bounds that calls have given last. -/
def lastBounds? : List (Registry × ScaleCall) → Option (ScaleInput × ScaleInput)
  | [] => none
  | p :: rest => (lastBounds? rest).or p.2.bounds?

/-- The bounds of a scale are what two inputs resolve to, or there are none. -/
inductive Scale.BoundsFrom (s : Scale) : Option (ScaleInput × ScaleInput) → Prop where
  | none (hmin : s.domainMin = none) (hmax : s.domainMax = none) : BoundsFrom s none
  | both {r : Registry} {low high : ScaleInput} {v w : ScaleValue}
      (hlow : r.resolveDomain low = .ok v) (hhigh : r.resolveDomain high = .ok w)
      (hmin : s.domainMin = some v) (hmax : s.domainMax = some w) : BoundsFrom s (some (low, high))

/-! ## Lemmas -/

/-! ### Null -/

namespace ScaleValue

/-- All values are written but one. -/
theorem isSome_collect {v : ScaleValue} :
    v.toAttribute.collect.isSome = true ↔ v ≠ literal .null := by
  cases v with
  | ref r => simp [toAttribute, Attribute.collect]
  | values vs => simp [toAttribute, Attribute.collect]
  | literal v => cases v <;> simp [toAttribute, Attribute.collect]

end ScaleValue

namespace Registry

variable {r : Registry} {input : ScaleInput} {v : ScaleValue}

/-- Nothing but null resolves to null. -/
theorem eq_null_of_resolveDomain (h : r.resolveDomain input = .ok v) :
    v = .literal .null ↔ input = .literal .null := by
  cases input with
  | reference token =>
    obtain ⟨ref, -, rfl⟩ := map_eq_ok.1 h
    simp
  | data name =>
    obtain ⟨d, -, rfl⟩ := map_eq_ok.1 h
    simp
  | values vs =>
    cases h
    simp
  | literal w =>
    cases h
    simp

end Registry

namespace Scale

variable {r : Registry} {s s' : Scale} {b : Option (ScaleInput × ScaleInput)}

/-! ### Calls -/

theorem boundsFrom_apply {call : ScaleCall} (hs : s.BoundsFrom b) (h : s.apply r call = .ok s') :
    s'.BoundsFrom (call.bounds?.or b) := by
  cases hgives : call.bounds? with
  | none =>
    obtain ⟨hsameMin, hsameMax⟩ := (apply_frame h).2.2 hgives
    cases hs with
    | none hmin hmax => exact .none (hsameMin.trans hmin) (hsameMax.trans hmax)
    | both hlow hhigh hmin hmax =>
      exact .both hlow hhigh (hsameMin.trans hmin) (hsameMax.trans hmax)
  | some inputs =>
    obtain ⟨v, w, hv, hw, hmin, hmax⟩ := bounds_of_apply h hgives
    exact .both hv hw hmin hmax

/-- The last call that gives bounds decides. -/
theorem boundsFrom_of_run {calls : List (Registry × ScaleCall)} (hs : s.BoundsFrom b)
    (h : calls.foldlM applyAt s = .ok s') : s'.BoundsFrom ((lastBounds? calls).or b) := by
  induction calls generalizing s b with
  | nil =>
    cases h
    exact hs
  | cons p rest ih =>
    simp only [List.foldlM_cons, bind_eq_ok] at h
    obtain ⟨d, happly, hrest⟩ := h
    rw [lastBounds?, Option.or_assoc]
    exact ih (boundsFrom_apply hs happly) hrest

theorem boundsFrom_of_new {name : String} {type : ScaleType} {calls : List (Registry × ScaleCall)}
    (h : calls.foldlM applyAt { name, type } = .ok s) : s.BoundsFrom (lastBounds? calls) := by
  have hs : s.BoundsFrom ((lastBounds? calls).or none) := boundsFrom_of_run (.none rfl rfl) h
  rwa [Option.or_none] at hs

/-! ### The document -/

/-- What the document has for one of the values. -/
theorem get?_value (s : Scale) (name : String) {key : String} {value : Option ScaleValue}
    (hname : toCamel name = key) (h : (name, scaleValue value) ∈ s.attributes) :
    s.attributes.collect.get? key = value.bind fun v => v.toAttribute.collect := by
  rw [Attributes.get?_of_mem name s.nodup_keys hname h]
  cases value <;> rfl

theorem get?_domainMin (s : Scale) : s.attributes.collect.get? "domainMin" =
    s.domainMin.bind fun v => v.toAttribute.collect :=
  s.get?_value "domain_min" (by decide +kernel) (by simp [attributes])

theorem get?_domainMax (s : Scale) : s.attributes.collect.get? "domainMax" =
    s.domainMax.bind fun v => v.toAttribute.collect :=
  s.get?_value "domain_max" (by decide +kernel) (by simp [attributes])

/-- A bound is in the document if the input for it is not null. -/
theorem BoundsFrom.isSome_get? (hs : s.BoundsFrom b) :
    ((s.attributes.collect.get? "domainMin").isSome = true ↔ ∃ p ∈ b, p.1 ≠ .literal .null) ∧
    ((s.attributes.collect.get? "domainMax").isSome = true ↔ ∃ p ∈ b, p.2 ≠ .literal .null) := by
  rw [get?_domainMin, get?_domainMax]
  cases hs with
  | none hmin hmax => simp [hmin, hmax]
  | both hlow hhigh hmin hmax =>
    simp only [hmin, hmax, Option.bind_some, ScaleValue.isSome_collect,
      Registry.eq_null_of_resolveDomain hlow, Registry.eq_null_of_resolveDomain hhigh,
      Option.mem_def, Option.some.injEq, exists_eq_left', ne_eq, and_self]

end Scale

/-! ## Top theorem -/

/-- A scale is built by calls, each beside the registry of its moment.  The document has the key of
a bound exactly if some call gives bounds and the last one that does gives other than null for it.
So it has both keys or none exactly if that call gives null for both bounds or for none. -/
theorem Scale.bounds_paired_iff {name : String} {type : ScaleType}
    {calls : List (Registry × ScaleCall)} {last grown : Registry} {draft s : Scale}
    (hrun : applyAll applyAt { name, type } calls = .ok draft)
    (hbuilt : last.addScale draft = .ok (grown, s)) :
    let document := s.attributes.collect
    ((document.get? "domainMin").isSome = true ↔ ∃ b ∈ lastBounds? calls, b.1 ≠ .literal .null) ∧
    ((document.get? "domainMax").isSome = true ↔ ∃ b ∈ lastBounds? calls, b.2 ≠ .literal .null) ∧
    (((document.get? "domainMin").isSome = true ↔ (document.get? "domainMax").isSome = true) ↔
      ∀ b ∈ lastBounds? calls, b.1 = .literal .null ↔ b.2 = .literal .null) := by
  obtain ⟨-, -, -, rfl⟩ := Registry.addScale_eq_ok.1 hbuilt
  obtain ⟨hmin, hmax⟩ := (boundsFrom_of_new (applyAll_eq_ok.1 hrun)).isSome_get?
  refine ⟨hmin, hmax, ?_⟩
  rw [hmin, hmax]
  cases lastBounds? calls with
  | none => simp
  | some b => simp [not_iff_not]

/-- Bounds that are given twice, first as null. -/
theorem Scale.bounds_paired_twice :
    ∃ draft grown, applyAll applyAt { name := "x", type := .linear } [
        (Registry.priced, .domainBounds (some (.literal .null)) (some (.literal .null))),
        (Registry.priced, .domainBounded (.reference "table.price") (.literal (.int 0))
          (.reference "table.max")),
        (Registry.priced, .domainBounds none none)] = .ok draft ∧
      Registry.priced.addScale draft = .ok (grown, draft) ∧
      (draft.attributes.collect.get? "domainMin").isSome = true ∧
      (draft.attributes.collect.get? "domainMax").isSome = true := by
  refine ⟨_, _, rfl, rfl, ?_⟩
  obtain ⟨hmin, hmax, -⟩ := @bounds_paired_iff "x" .linear [
    (Registry.priced, .domainBounds (some (.literal .null)) (some (.literal .null))),
    (Registry.priced, .domainBounded (.reference "table.price") (.literal (.int 0))
      (.reference "table.max")),
    (Registry.priced, .domainBounds none none)] Registry.priced _ _ _ rfl rfl
  exact ⟨hmin.2 ⟨_, rfl, nofun⟩, hmax.2 ⟨_, rfl, nofun⟩⟩

/-- Null for the lower bound only. -/
theorem Scale.bounds_not_paired :
    ∃ grown s, Registry.buildScale {} "s" .linear [
        .domainBounds (some (.literal .null)) (some (.literal (.int 10)))] = .ok (grown, s) ∧
      s.attributes.collect.get? "domainMin" = none ∧
      s.attributes.collect.get? "domainMax" = some (.int 10) := by
  refine ⟨_, _, rfl, ?_, ?_⟩
  · rw [get?_domainMin]
    rfl
  · rw [get?_domainMax]
    rfl

end ChartSpec
