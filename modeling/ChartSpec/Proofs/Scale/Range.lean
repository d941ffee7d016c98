import ChartSpec.Proofs.Scale.ByName
import ChartSpec.Proofs.Scale.Calls

/-!
# Ranges and domains

A range is given like a domain, except that five texts are keywords.  Before a range is resolved
as a domain would be, its text must have a point or be the name of a data set, and that is no
further condition: a text that has neither is refused as a domain as well.

    registered    text         as a domain            as a range
    width         width        positions of `width`   keyword
    sales         sales        positions of `sales`   positions of `sales`
    sales         sales.       positions of `sales`   positions of `sales`
    sales         .sales       refused                refused
    sales.2024    sales.2024   refused                refused
    (nothing)     (empty)      refused                refused

So apart from the keywords ranges resolve exactly as domains do (`Registry.range_iff_domain`).
-/

namespace ChartSpec

/-- A text that names a registered data set, alone or before a point and a field.  A data set whose
own name has a point cannot be named so. -/
def Registry.IsNamedBy (r : Registry) (token : String) : Prop :=
  ∃ d ∈ r.data, '.' ∉ d.name.toList ∧ (token = d.name ∨ ∃ field, token = d.name ++ "." ++ field)

/-! ## Lemmas -/

namespace RangeKeyword

theorem ofName?_name (k : RangeKeyword) : ofName? k.name = some k := by
  cases k <;> decide

theorem ofName?_eq_none {token : String} (h : ∀ k : RangeKeyword, token ≠ k.name) :
    ofName? token = none := by
  rw [ofName?, List.find?_eq_none]
  intro k _
  simpa using (h k).symm

end RangeKeyword

namespace Registry

variable {r : Registry} {token : String}

theorem resolveRange_keyword (k : RangeKeyword) :
    r.resolveRange (.reference k.name) = .ok (.literal (.str k.literal)) := by
  rw [resolveRange, RangeKeyword.ofName?_name]

/-- A text without a point is a name, and without such a data set it is nothing. -/
theorem resolveDomain_of_unknown (hpoint : '.' ∉ token.toList) (hnone : r.findData? token = none) :
    r.resolveDomain (.reference token) = .error (.refused (.notRegistered .data token)) := by
  rw [resolveDomain, resolveDataRef, resolveReference, FieldReference.parseQualified,
    FieldReference.splitPoint_eq_none hpoint, expectData]
  simp only [Option.getD_some, hnone]
  rfl

/-- What is no keyword is resolved as a domain, or refused in both ways but in other words. -/
theorem resolveRange_cases {input : ScaleInput}
    (h : ∀ k : RangeKeyword, input ≠ .reference k.name) :
    r.resolveRange input = r.resolveDomain input ∨
      ∃ token, input = .reference token ∧ '.' ∉ token.toList ∧ r.findData? token = none ∧
        r.resolveRange input = .error (.refused (.unknownName .rangeLiteral token)) ∧
        r.resolveDomain input = .error (.refused (.notRegistered .data token)) := by
  cases input with
  | data | values | literal => exact .inl rfl
  | reference token =>
    have hkeyword : RangeKeyword.ofName? token = none :=
      RangeKeyword.ofName?_eq_none fun k heq => h k (heq ▸ rfl)
    rw [resolveRange, hkeyword]
    by_cases hnamed : '.' ∈ token.toList ∨ (r.findData? token).isSome
    · exact .inl (if_pos hnamed)
    · obtain ⟨hpoint, hfind⟩ := not_or.1 hnamed
      have hnone : r.findData? token = none := Option.not_isSome_iff_eq_none.1 hfind
      exact .inr ⟨token, rfl, hpoint, hnone, if_neg hnamed, resolveDomain_of_unknown hpoint hnone⟩

/-- What a range is resolved to. -/
theorem resolveRange_eq_ok {input : ScaleInput} {v : ScaleValue} :
    r.resolveRange input = .ok v ↔
      (∃ k : RangeKeyword, input = .reference k.name ∧ v = .literal (.str k.literal)) ∨
        (∀ k : RangeKeyword, input ≠ .reference k.name) ∧ r.resolveDomain input = .ok v := by
  by_cases hkeyword : ∃ k : RangeKeyword, input = .reference k.name
  · obtain ⟨k, rfl⟩ := hkeyword
    rw [resolveRange_keyword, Except.ok.injEq]
    constructor
    · rintro rfl
      exact .inl ⟨k, rfl, rfl⟩
    · rintro (⟨k', hk', rfl⟩ | ⟨hother, -⟩)
      · have hsame : some k = some k' := by
          rw [← RangeKeyword.ofName?_name k, ← RangeKeyword.ofName?_name k']
          exact congrArg _ (ScaleInput.reference.inj hk')
        cases hsame
        rfl
      · exact absurd rfl (hother k)
  · rw [or_iff_right fun ⟨k, hk, _⟩ => hkeyword ⟨k, hk⟩]
    have hother : ∀ k : RangeKeyword, input ≠ .reference k.name := fun k hk => hkeyword ⟨k, hk⟩
    rw [and_iff_right hother]
    rcases r.resolveRange_cases hother with hsame | ⟨token, rfl, -, -, hrange, hdomain⟩
    · rw [hsame]
    · simp [hrange, hdomain]

/-- The texts that are domains. -/
theorem exists_resolveDomain_iff :
    (∃ v, r.resolveDomain (.reference token) = .ok v) ↔ r.IsNamedBy token := by
  constructor
  · rintro ⟨v, hv⟩
    by_cases hpoint : '.' ∈ token.toList
    · obtain ⟨source, field, rfl, hsource⟩ := FieldReference.exists_of_point_mem hpoint
      cases hfind : r.findData? source with
      | none =>
        rw [resolveDomain_point_none hsource field hfind] at hv
        cases hv
      | some d =>
        obtain ⟨hd, rfl⟩ := mem_of_findData? hfind
        exact ⟨d, hd, hsource, .inr ⟨field, rfl⟩⟩
    · cases hfind : r.findData? token with
      | none =>
        rw [resolveDomain_of_unknown hpoint hfind] at hv
        cases hv
      | some d =>
        obtain ⟨hd, rfl⟩ := mem_of_findData? hfind
        exact ⟨d, hd, hpoint, .inl rfl⟩
  · rintro ⟨d, hd, hpoint, htoken⟩
    -- The first data set of this name need not be `d`, but is named alike.
    obtain ⟨e, he⟩ : ∃ e, r.findData? d.name = some e :=
      Option.isSome_iff_exists.1 (isSome_findData?.2 (List.mem_map_of_mem hd))
    have hname : e.name = d.name := (mem_of_findData? he).2
    rcases htoken with rfl | ⟨field, rfl⟩
    · rw [← hname] at he hpoint ⊢
      exact ⟨_, resolveDomain_name he hpoint⟩
    · exact ⟨_, resolveDomain_point hpoint field he⟩

end Registry

namespace Scale

variable {r : Registry} {input : ScaleInput} {e : Error}

theorem apply_range_of_error (s : Scale) (h : r.resolveRange input = .error e) :
    s.apply r (.range input) = .error (e.through (.rangeOf s.name)) := by
  rw [apply, h]
  rfl

theorem apply_domain_of_error (s : Scale) (h : r.resolveDomain input = .error e) :
    s.apply r (.domain input) = .error (e.through (.domainOf s.name)) := by
  rw [apply, setDomain, h]
  rfl

theorem apply_range_keyword (s : Scale) (k : RangeKeyword) :
    s.apply r (.range (.reference k.name)) =
      .ok { s with range := some (.literal (.str k.literal)) } :=
  apply_range.2 ⟨_, Registry.resolveRange_keyword k, rfl⟩

/-- Any other input is set as the range and as the domain, or refused as either. -/
theorem apply_range_cases (s : Scale) (h : ∀ k : RangeKeyword, input ≠ .reference k.name) :
    (∃ v, s.apply r (.range input) = .ok { s with range := some v } ∧
      s.apply r (.domain input) = .ok { s with domain := some v }) ∨
    (∃ e, s.apply r (.range input) = .error e) ∧ ∃ e, s.apply r (.domain input) = .error e := by
  rcases r.resolveRange_cases h with hsame | ⟨token, rfl, -, -, hrange, hdomain⟩
  · cases hv : r.resolveDomain input with
    | ok v =>
      exact .inl ⟨v, apply_range.2 ⟨v, hsame.trans hv, rfl⟩, setDomain_eq_ok.2 ⟨v, hv, rfl⟩⟩
    | error e =>
      exact .inr ⟨⟨_, s.apply_range_of_error (hsame.trans hv)⟩, _, s.apply_domain_of_error hv⟩
  · exact .inr ⟨⟨_, s.apply_range_of_error hrange⟩, _, s.apply_domain_of_error hdomain⟩

/-- The texts that are ranges. -/
theorem exists_apply_range_iff (s : Scale) {token : String} :
    (∃ s', s.apply r (.range (.reference token)) = .ok s') ↔
      (∃ k : RangeKeyword, token = k.name) ∨ r.IsNamedBy token := by
  simp only [apply_range, Registry.resolveRange_eq_ok, ← Registry.exists_resolveDomain_iff]
  constructor
  · rintro ⟨_, v, ⟨k, hk, -⟩ | ⟨-, hv⟩, -⟩
    · exact .inl ⟨k, ScaleInput.reference.inj hk⟩
    · exact .inr ⟨v, hv⟩
  · intro h
    by_cases hkeyword : ∃ k : RangeKeyword, token = k.name
    · obtain ⟨k, rfl⟩ := hkeyword
      exact ⟨_, _, .inl ⟨k, rfl, rfl⟩, rfl⟩
    · obtain ⟨v, hv⟩ := h.resolve_left hkeyword
      exact ⟨_, v, .inr ⟨fun k hk => hkeyword ⟨k, ScaleInput.reference.inj hk⟩, hv⟩, rfl⟩

end Scale

/-! ## Top theorem -/

/-- A keyword is the range that it stands for, be a data set called so or not.  Any other input
sets the range and the domain to one value or is refused as either.  So the texts that are ranges
are the keywords and those that name a registered data set, alone or with a field. -/
theorem Registry.range_iff_domain (r : Registry) (s : Scale) :
    (∀ k : RangeKeyword, s.apply r (.range (.reference k.name)) =
      .ok { s with range := some (.literal (.str k.literal)) }) ∧
    (∀ input, (∀ k : RangeKeyword, input ≠ .reference k.name) →
      (∃ v, s.apply r (.range input) = .ok { s with range := some v } ∧
        s.apply r (.domain input) = .ok { s with domain := some v }) ∨
      (∃ e, s.apply r (.range input) = .error e) ∧ ∃ e, s.apply r (.domain input) = .error e) ∧
    ∀ token, (∃ s', s.apply r (.range (.reference token)) = .ok s') ↔
      (∃ k : RangeKeyword, token = k.name) ∨ r.IsNamedBy token := by
  refine ⟨s.apply_range_keyword, ?_, ?_⟩
  · intro input h
    exact s.apply_range_cases h
  · intro token
    exact s.exists_apply_range_iff

/-- A registry with a data set that is called like a keyword, beside one with statistics. -/
def Registry.widths : Registry :=
  after priced (priced.buildData "width" [.values (.arr [.int 1, .int 2])])

theorem Registry.range_iff_domain_widths :
    let s : Scale := { name := "x", type := .ordinal }
    (∀ k : RangeKeyword, ScaleInput.reference "table.count" ≠ .reference k.name) ∧
      s.apply widths (.range (.reference "table.count")) =
        .ok { s with range := some (.ref ⟨"table", .one "count"⟩) } ∧
      s.apply widths (.domain (.reference "table.count")) =
        .ok { s with domain := some (.ref ⟨"table", .one "count"⟩) } ∧
      widths.IsNamedBy "width" ∧
      s.apply widths (.range (.reference "width")) =
        .ok { s with range := some (.literal (.str "width")) } ∧
      s.apply widths (.domain (.reference "width")) =
        .ok { s with domain := some (.ref ⟨"width", .one "index"⟩) } := by
  intro s
  have hother : ∀ k : RangeKeyword, ScaleInput.reference "table.count" ≠ .reference k.name := by
    intro k
    cases k <;> simp [RangeKeyword.name]
  obtain ⟨hkeyword, halike, -⟩ := range_iff_domain widths s
  have hdomain : s.apply widths (.domain (.reference "table.count")) =
      .ok { s with domain := some (.ref ⟨"table", .one "count"⟩) } := by decide
  have hwidth : s.apply widths (.domain (.reference "width")) =
      .ok { s with domain := some (.ref ⟨"width", .one "index"⟩) } := by decide
  have hnamed : widths.IsNamedBy "width" := by
    obtain ⟨v, hv, -⟩ := Scale.setDomain_eq_ok.1 hwidth
    exact exists_resolveDomain_iff.1 ⟨v, hv⟩
  refine ⟨hother, ?_, hdomain, hnamed, hkeyword .width, hwidth⟩
  rcases halike _ hother with ⟨v, hrange, hsame⟩ | ⟨-, e, hrefused⟩
  · cases hdomain.symm.trans hsame
    exact hrange
  · cases hdomain.symm.trans hrefused

end ChartSpec
