import ChartSpec.Proofs.Distinct
import ChartSpec.Proofs.Scale.Calls

/-!
# Domains over several fields

A domain over several fields takes its references one by one, each as a domain of its own would:

    people.born, people.died    {"data": "people", "field": ["data.born", "data.died"]}
    people.born, people.born    {"data": "people", "field": ["data.born", "data.born"]}
    people.born, places.area    refused: from people, places
    (nothing)                   refused: from no data set

No field is lost on the way, since a reference that is accepted means exactly one
(`Registry.resolveFields_eq_ok`).  The first reference that is refused decides, before the data sets
are compared (`Scale.domainFields_iff`).
-/

namespace ChartSpec

/-! ## Lemmas -/

/-! ### Lists -/

/-- One element is left of a list exactly if there is no other. -/
theorem eraseDups_eq_singleton {α : Type} [BEq α] [LawfulBEq α] {xs : List α} {x : α} :
    xs.eraseDups = [x] ↔ xs ≠ [] ∧ ∀ y ∈ xs, y = x := by
  constructor
  · intro h
    have hmem : ∀ y, y ∈ xs ↔ y = x := fun y => by rw [← List.mem_eraseDups, h, List.mem_singleton]
    exact ⟨List.ne_nil_of_mem ((hmem x).2 rfl), fun y hy => (hmem y).1 hy⟩
  · rintro ⟨hne, hall⟩
    obtain ⟨y, ys, rfl⟩ := List.exists_cons_of_ne_nil hne
    obtain ⟨rfl, hys⟩ := List.forall_mem_cons.1 hall
    have hnone : (ys.filter fun z => !z == y) = [] :=
      List.filter_eq_nil_iff.2 fun z hz => by simp [hys z hz]
    rw [List.eraseDups_cons, hnone, List.eraseDups_nil]

/-! ### References -/

namespace Registry

variable {r : Registry} {tokens : List String}

/-- A reference means one field of a data set. -/
theorem exists_field_of_resolveDataRef {token : String} {ref : DataRef}
    (h : r.resolveDataRef token = .ok ref) : ∃ field, ref = ⟨ref.data, .one field⟩ := by
  obtain ⟨⟨data, field⟩, -, rfl⟩ := map_eq_ok.1 h
  exact ⟨field, rfl⟩

/-- References that all mean fields of one data set. -/
theorem exists_fields_of_forall₂ {refs : List DataRef} {data : String}
    (h : List.Forall₂ (fun token ref => r.resolveDataRef token = .ok ref) tokens refs)
    (hdata : ∀ ref ∈ refs, ref.data = data) :
    ∃ fields : List String, refs = fields.map (fun field => ⟨data, .one field⟩) ∧
      List.Forall₂ (fun token field => r.resolveDataRef token = .ok ⟨data, .one field⟩)
        tokens fields := by
  induction h with
  | nil => exact ⟨[], rfl, .nil⟩
  | cons href _ ih =>
    obtain ⟨rfl, hrest⟩ := List.forall_mem_cons.1 hdata
    obtain ⟨fields, rfl, hfields⟩ := ih hrest
    obtain ⟨field, hfield⟩ := exists_field_of_resolveDataRef href
    exact ⟨field :: fields, by rw [List.map_cons, ← hfield], .cons (hfield ▸ href) hfields⟩

/-- Several fields are those that the references mean, one for each. -/
theorem resolveFields_eq_ok {ref : DataRef} :
    r.resolveFields tokens = .ok ref ↔ tokens ≠ [] ∧ ∃ data fields, ref = ⟨data, .many fields⟩ ∧
      List.Forall₂ (fun token field => r.resolveDataRef token = .ok ⟨data, .one field⟩)
        tokens fields := by
  rw [resolveFields, bind_eq_ok]
  constructor
  · rintro ⟨refs, hrefs, h⟩
    split at h
    · rename_i data hdata
      obtain ⟨hne, hall⟩ := eraseDups_eq_singleton.1 hdata
      rw [List.forall_mem_map] at hall
      rw [mapM_eq_ok] at hrefs
      obtain ⟨fields, rfl, hfields⟩ := exists_fields_of_forall₂ hrefs hall
      refine ⟨?_, data, fields, ?_, hfields⟩
      · rintro rfl
        cases hfields
        exact hne rfl
      · rw [← pure_eq_ok.1 h, List.filterMap_map]
        exact congrArg (fun fs => DataRef.mk data (.many fs)) List.filterMap_some
    · cases h
  · rintro ⟨hne, data, fields, rfl, hfields⟩
    refine ⟨fields.map fun field => ⟨data, .one field⟩, mapM_eq_ok.2 ?_, ?_⟩
    · rwa [List.forall₂_map_right_iff]
    · have hone : ((fields.map fun field => (⟨data, .one field⟩ : DataRef)).map
          DataRef.data).eraseDups = [data] := by
        refine eraseDups_eq_singleton.2 ⟨?_, by simp⟩
        cases hfields with
        | nil => exact absurd rfl hne
        | cons => simp
      rw [hone, List.filterMap_map]
      exact congrArg (fun fs => Except.ok (DataRef.mk data (.many fs))) List.filterMap_some

theorem resolveFields_eq_error {e : Error} :
    r.resolveFields tokens = .error e ↔
      (∃ before token after, tokens = before ++ token :: after ∧
        (∀ earlier ∈ before, ∃ ref, r.resolveDataRef earlier = .ok ref) ∧
        r.resolveDataRef token = .error e) ∨
      ∃ refs, List.Forall₂ (fun token ref => r.resolveDataRef token = .ok ref) tokens refs ∧
        (refs.map DataRef.data).eraseDups.length ≠ 1 ∧
        e = .refused (.domainOfSeveral (refs.map DataRef.data).eraseDups) := by
  rw [← mapM_eq_error, resolveFields]
  simp only [← mapM_eq_ok]
  cases hrefs : tokens.mapM r.resolveDataRef with
  | error e' => simp [bind, Except.bind]
  | ok refs =>
    simp only [bind, Except.bind, reduceCtorEq, Except.ok.injEq, false_or, exists_eq_left']
    split
    · rename_i data hdata
      simp [hdata, pure, Except.pure]
    · rename_i several hseveral
      have hlength : (refs.map DataRef.data).eraseDups.length ≠ 1 := fun hone => by
        obtain ⟨data, hdata⟩ := List.length_eq_one_iff.1 hone
        exact hseveral data hdata
      simp [hlength, Error.refused, eq_comm]

end Registry

theorem Error.through_inj {e e' : Error} {p : Place} : e.through p = e'.through p ↔ e = e' := by
  cases e
  cases e'
  simp [through]

namespace Scale

/-- A reference as the domain of a scale. -/
theorem apply_domain_reference_eq (r : Registry) (s : Scale) (reference : String) :
    s.apply r (.domain (.reference reference)) =
      match r.resolveDataRef reference with
      | .ok ref => .ok { s with domain := some (.ref ref) }
      | .error e => .error (e.through (.domainOf s.name)) := by
  show setDomain r s (.reference reference) = _
  rw [setDomain, Registry.resolveDomain]
  cases r.resolveDataRef reference <;> rfl

theorem apply_domain_reference_eq_ok {r : Registry} {s : Scale} {reference : String}
    {ref : DataRef} :
    s.apply r (.domain (.reference reference)) = .ok { s with domain := some (.ref ref) } ↔
      r.resolveDataRef reference = .ok ref := by
  rw [apply_domain_reference_eq]
  cases r.resolveDataRef reference <;> simp

/-- A domain is refused where the reference is, and says in which scale. -/
theorem apply_domain_reference_eq_error {r : Registry} {s : Scale} {reference : String}
    {e : Error} :
    s.apply r (.domain (.reference reference)) = .error (e.through (.domainOf s.name)) ↔
      r.resolveDataRef reference = .error e := by
  rw [apply_domain_reference_eq]
  cases r.resolveDataRef reference with
  | ok ref => simp
  | error e' => simp [Error.through_inj]

theorem apply_domainFields_eq_error {r : Registry} {s : Scale} {references : List String}
    {e : Error} :
    s.apply r (.domainFields references) = .error e ↔ r.resolveFields references = .error e := by
  rw [apply]
  cases r.resolveFields references <;> simp [bind, Except.bind, pure, Except.pure]

end Scale

/-! ## Top theorem -/

/-- A domain over several fields is accepted exactly if there are references and each of them, as a
domain of its own, means a field of one and the same data set.  It then has these fields, one for
each reference and in their order.  It is refused for the first reference that is refused as a
domain, with the same message; if there is none, for the data sets that the references mean, which
are not exactly one. -/
theorem Scale.domainFields_iff (r : Registry) (s : Scale) (references : List String) :
    let domain (reference : String) := s.apply r (.domain (.reference reference))
    let domainFields := s.apply r (.domainFields references)
    (∀ s', domainFields = .ok s' ↔
      references ≠ [] ∧ ∃ data fields,
        List.Forall₂ (fun reference field =>
          domain reference = .ok { s with domain := some (.ref ⟨data, .one field⟩) })
          references fields ∧
        s' = { s with domain := some (.ref ⟨data, .many fields⟩) }) ∧
    ∀ e, domainFields = .error e ↔
      (∃ before reference after, references = before ++ reference :: after ∧
        (∀ earlier ∈ before, ∃ s', domain earlier = .ok s') ∧
        domain reference = .error (e.through (.domainOf s.name)) ∧
        (e.through (.domainOf s.name)).message = e.message) ∨
      ∃ refs : List DataRef,
        List.Forall₂ (fun reference ref =>
          domain reference = .ok { s with domain := some (.ref ref) }) references refs ∧
        (refs.map DataRef.data).eraseDups.length ≠ 1 ∧
        e = .refused (.domainOfSeveral (refs.map DataRef.data).eraseDups) ∧
        e.message = "Fields of a multi-field domain must come from one Data, received " ++
          ", ".intercalate (refs.map DataRef.data).eraseDups := by
  intro domain domainFields
  have hdomain : ∀ reference, (∃ s', domain reference = .ok s') ↔
      ∃ ref, r.resolveDataRef reference = .ok ref := by
    intro reference
    simp only [domain, apply_domain_reference_eq]
    cases r.resolveDataRef reference <;> simp
  simp only [hdomain, domain, apply_domain_reference_eq_ok, apply_domain_reference_eq_error]
  refine ⟨fun s' => ?_, fun e => ?_⟩
  · rw [apply_domainFields]
    simp only [Registry.resolveFields_eq_ok]
    constructor
    · rintro ⟨_, ⟨hne, data, fields, rfl, hfields⟩, rfl⟩
      exact ⟨hne, data, fields, hfields, rfl⟩
    · rintro ⟨hne, data, fields, hfields, rfl⟩
      exact ⟨_, ⟨hne, data, fields, rfl, hfields⟩, rfl⟩
  · rw [apply_domainFields_eq_error, Registry.resolveFields_eq_error]
    refine or_congr ?_ ?_
    · have hmessage : (e.through (.domainOf s.name)).message = e.message := rfl
      simp only [hmessage, and_true]
    · refine exists_congr fun refs => and_congr_right fun _ => and_congr_right fun _ => ?_
      rw [iff_self_and]
      rintro rfl
      rfl

end ChartSpec
