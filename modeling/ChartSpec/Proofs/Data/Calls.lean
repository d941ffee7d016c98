import ChartSpec.Proofs.Registry

/-!
# Calls on data sets

What each call on a data set does when it is not refused.  Only the source and the transforms
bring references and fields (`Data.apply_frame`).
-/

namespace ChartSpec

/-- The calls that set where the records of a data set come from and what they go through. -/
def DataCall.SetsFlow : DataCall → Prop
  | .source _ => True
  | .transform _ => True
  | .transforms _ => True
  | _ => False

namespace Data

/-! ## Lemmas -/

variable {r : Registry} {d d' : Data}

theorem setValues_eq_ok {v : Json} :
    d.setValues v = .ok d' ↔
      (v.isArray || v.isObject) = true ∧ d' = { d with values := some v } := by
  rw [setValues]
  split
  · rename_i hv
    simp [hv, eq_comm]
  · rename_i hv
    simp [hv]

theorem setSource_eq_ok {name : String} :
    d.setSource r name = .ok d' ↔ d.transforms = [] ∧
      ∃ source, r.findData? name = some source ∧
        d' = { d with
          source := some name
          fields := FieldSet.structural.union source.fields } := by
  rw [setSource]
  split
  · rename_i hfree
    simp only [bind_eq_ok, pure_eq_ok, Registry.expectData_eq_ok, List.isEmpty_iff.1 hfree,
      true_and]
    constructor
    · rintro ⟨source, hsource, rfl⟩
      exact ⟨source, hsource, rfl⟩
    · rintro ⟨source, hsource, rfl⟩
      exact ⟨source, hsource, rfl⟩
  · rename_i htransforms
    simp only [List.isEmpty_iff] at htransforms
    simp [htransforms]

theorem addTransform_eq_ok {t : Transform} :
    d.addTransform r t = .ok d' ↔ ∃ t' fields, t.attach r.known d.fields = .ok (t', fields) ∧
      d' = { d with transforms := d.transforms ++ [t'], fields } := by
  simp only [addTransform, bind_eq_ok, inPlace_eq_ok, pure_eq_ok, Prod.exists]
  constructor
  · rintro ⟨t', fields, hattach, rfl⟩
    exact ⟨t', fields, hattach, rfl⟩
  · rintro ⟨t', fields, hattach, rfl⟩
    exact ⟨t', fields, hattach, rfl⟩

theorem apply_valuesText {text problem : String} :
    d.apply r (.valuesText text problem) = .ok d' ↔
      ∃ v, Json.parse? text = some v ∧ d.setValues v = .ok d' := by
  simp only [apply, bind_eq_ok, inPlace_eq_ok, demand_eq_ok]

theorem apply_url {url : String} :
    d.apply r (.url url) = .ok d' ↔
      (∃ address, Url.check url = .ok address) ∧ d' = { d with url := some url } := by
  rw [apply]
  split
  · rename_i address hurl
    simp [hurl, eq_comm]
  · rename_i error hurl
    simp [hurl]

/-- A call that sets no flow leaves the name, the source, the transforms and the context. -/
theorem apply_frame {call : DataCall} (h : d.apply r call = .ok d') :
    call.SetsFlow ∨ d'.name = d.name ∧ d'.source = d.source ∧ d'.transforms = d.transforms ∧
      d'.fields = d.fields := by
  cases call with
  | values v =>
    obtain ⟨-, rfl⟩ := setValues_eq_ok.1 h
    exact .inr ⟨rfl, rfl, rfl, rfl⟩
  | valuesText text problem =>
    obtain ⟨v, -, hvalues⟩ := apply_valuesText.1 h
    obtain ⟨-, rfl⟩ := setValues_eq_ok.1 hvalues
    exact .inr ⟨rfl, rfl, rfl, rfl⟩
  | url url =>
    obtain ⟨-, rfl⟩ := apply_url.1 h
    exact .inr ⟨rfl, rfl, rfl, rfl⟩
  | format f =>
    cases h
    exact .inr ⟨rfl, rfl, rfl, rfl⟩
  | source | transform | transforms => exact .inl trivial

end Data

end ChartSpec
