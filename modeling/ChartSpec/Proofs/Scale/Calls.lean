import ChartSpec.Proofs.Registry

/-!
# Calls on scales

What each call on a scale does when it is not refused.  A call resolves its inputs beside the
registry, or asks whether the type has a property, and then writes its attributes.  It reads
nothing of the scale but the name and the type, and leaves both.  Calls that set a flag or a
keyword cannot be refused, and say themselves what they do.  The values of a scale come from the
registry, so that what holds of all that a registry gives holds of them (`Scale.hasValues_apply`).
-/

namespace ChartSpec

/-- The inputs of the two bounds, if a call gives both. -/
def ScaleCall.bounds? : ScaleCall → Option (ScaleInput × ScaleInput)
  | .domainBounded _ low high => some (low, high)
  | .domainBounds (some low) (some high) => some (low, high)
  | _ => none

/-- What holds of the value of the domain, and what of the values of bounds and range. -/
structure Scale.HasValues (P Q : ScaleValue → Prop) (s : Scale) : Prop where
  domain : ∀ v ∈ s.domain, P v
  domainMin : ∀ v ∈ s.domainMin, Q v
  domainMax : ∀ v ∈ s.domainMax, Q v
  range : ∀ v ∈ s.range, Q v
  rangeMin : ∀ v ∈ s.rangeMin, Q v
  rangeMax : ∀ v ∈ s.rangeMax, Q v

/-- What holds of the values that a registry has for domains, of those that it has for bounds, and
of keywords. -/
structure Registry.Yields (P Q : ScaleValue → Prop) (r : Registry) : Prop where
  domain : ∀ input v, r.resolveDomain input = .ok v → P v ∧ Q v
  fields : ∀ tokens ref, r.resolveFields tokens = .ok ref → P (.ref ref)
  keyword : ∀ k : RangeKeyword, Q (.literal (.str k.literal))

/-- A call, with the registry of its moment. -/
def Scale.applyAt (s : Scale) (p : Registry × ScaleCall) : Except Error Scale := s.apply p.1 p.2

/-! ## Lemmas -/

/-- A range is a keyword or what would be a domain. -/
theorem Registry.keyword_or_resolveDomain {r : Registry} {input : ScaleInput} {v : ScaleValue}
    (h : r.resolveRange input = .ok v) :
    (∃ k : RangeKeyword, v = .literal (.str k.literal)) ∨ r.resolveDomain input = .ok v := by
  cases input with
  | reference token =>
    rw [resolveRange] at h
    split at h
    · rename_i k _
      cases h
      exact .inl ⟨k, rfl⟩
    · split at h
      · exact .inr h
      · cases h
  | data | values | literal => exact .inr h

namespace Scale

variable {r : Registry} {s s' : Scale}

/-! ### Domain and range -/

theorem setDomain_eq_ok {input : ScaleInput} :
    s.setDomain r input = .ok s' ↔
      ∃ v, r.resolveDomain input = .ok v ∧ s' = { s with domain := some v } := by
  simp only [setDomain, bind_eq_ok, inPlace_eq_ok, pure_eq_ok, eq_comm (b := s')]

/-- Both bounds are set or none. -/
theorem setBounds_eq_ok {low high : Option ScaleInput} :
    s.setBounds r low high = .ok s' ↔ (low = none ∧ high = none ∧ s' = s) ∨
      ∃ l h v w, low = some l ∧ high = some h ∧ r.resolveDomain l = .ok v ∧
        r.resolveDomain h = .ok w ∧ s' = { s with domainMin := some v, domainMax := some w } := by
  rcases low with _ | l <;> rcases high with _ | h
  · simp [setBounds, eq_comm]
  · simp [setBounds]
  · simp [setBounds]
  · simp only [setBounds, bind_eq_ok, pure_eq_ok]
    constructor
    · rintro ⟨v, hv, w, hw, rfl⟩
      exact .inr ⟨l, h, v, w, rfl, rfl, hv, hw, rfl⟩
    · rintro (⟨⟨⟩, -⟩ | ⟨_, _, v, w, ⟨⟩, ⟨⟩, hv, hw, rfl⟩)
      exact ⟨v, hv, w, hw, rfl⟩

theorem apply_domainBounded {input low high : ScaleInput} :
    s.apply r (.domainBounded input low high) = .ok s' ↔ ∃ d v w,
      r.resolveDomain input = .ok d ∧ r.resolveDomain low = .ok v ∧ r.resolveDomain high = .ok w ∧
        s' = { s with domain := some d, domainMin := some v, domainMax := some w } := by
  simp only [apply, bind_eq_ok, setDomain_eq_ok, setBounds_eq_ok]
  constructor
  · rintro ⟨_, ⟨d, hd, rfl⟩, ⟨⟨⟩, -⟩ | ⟨_, _, v, w, ⟨⟩, ⟨⟩, hv, hw, rfl⟩⟩
    exact ⟨d, v, w, hd, hv, hw, rfl⟩
  · rintro ⟨d, v, w, hd, hv, hw, rfl⟩
    exact ⟨_, ⟨d, hd, rfl⟩, .inr ⟨low, high, v, w, rfl, rfl, hv, hw, rfl⟩⟩

theorem apply_domainFields {references : List String} :
    s.apply r (.domainFields references) = .ok s' ↔
      ∃ ref, r.resolveFields references = .ok ref ∧ s' = { s with domain := some (.ref ref) } := by
  simp only [apply, bind_eq_ok, pure_eq_ok, eq_comm (b := s')]

theorem apply_range {input : ScaleInput} :
    s.apply r (.range input) = .ok s' ↔
      ∃ v, r.resolveRange input = .ok v ∧ s' = { s with range := some v } := by
  simp only [apply, bind_eq_ok, inPlace_eq_ok, pure_eq_ok, eq_comm (b := s')]

theorem apply_rangeMin {input : ScaleInput} :
    s.apply r (.rangeMin input) = .ok s' ↔
      ∃ v, r.resolveDomain input = .ok v ∧ s' = { s with rangeMin := some v } := by
  simp only [apply, bind_eq_ok, pure_eq_ok, eq_comm (b := s')]

theorem apply_rangeMax {input : ScaleInput} :
    s.apply r (.rangeMax input) = .ok s' ↔
      ∃ v, r.resolveDomain input = .ok v ∧ s' = { s with rangeMax := some v } := by
  simp only [apply, bind_eq_ok, pure_eq_ok, eq_comm (b := s')]

/-! ### Properties that not all types have -/

/-- A property is set on scales whose type has it. -/
theorem require_bind_eq_ok {property : String} {allowed : Bool} {t : Scale} :
    (do s.require property allowed; return t) = Except.ok s' ↔ allowed = true ∧ s' = t := by
  cases allowed <;> simp [require, bind, Except.bind, pure, Except.pure, eq_comm]

/-! ### What calls leave -/

/-- A call keeps the name and the type, and the bounds unless it gives some. -/
theorem apply_frame {call : ScaleCall} (h : s.apply r call = .ok s') :
    s'.name = s.name ∧ s'.type = s.type ∧
      (call.bounds? = none → s'.domainMin = s.domainMin ∧ s'.domainMax = s.domainMax) := by
  cases call with
  | domain input =>
    obtain ⟨_, -, rfl⟩ := setDomain_eq_ok.1 h
    exact ⟨rfl, rfl, fun _ => ⟨rfl, rfl⟩⟩
  | domainBounded input low high =>
    obtain ⟨_, _, _, -, -, -, rfl⟩ := apply_domainBounded.1 h
    exact ⟨rfl, rfl, nofun⟩
  | domainBounds low high =>
    obtain ⟨-, -, rfl⟩ | ⟨_, _, _, _, rfl, rfl, -, -, rfl⟩ := setBounds_eq_ok.1 h
    · exact ⟨rfl, rfl, fun _ => ⟨rfl, rfl⟩⟩
    · exact ⟨rfl, rfl, nofun⟩
  | domainFields references =>
    obtain ⟨_, -, rfl⟩ := apply_domainFields.1 h
    exact ⟨rfl, rfl, fun _ => ⟨rfl, rfl⟩⟩
  | range input =>
    obtain ⟨_, -, rfl⟩ := apply_range.1 h
    exact ⟨rfl, rfl, fun _ => ⟨rfl, rfl⟩⟩
  | rangeMin input =>
    obtain ⟨_, -, rfl⟩ := apply_rangeMin.1 h
    exact ⟨rfl, rfl, fun _ => ⟨rfl, rfl⟩⟩
  | rangeMax input =>
    obtain ⟨_, -, rfl⟩ := apply_rangeMax.1 h
    exact ⟨rfl, rfl, fun _ => ⟨rfl, rfl⟩⟩
  | rangeKeyword | reverse | round =>
    cases h
    exact ⟨rfl, rfl, fun _ => ⟨rfl, rfl⟩⟩
  | points | padding | sort | clamp | exponent | zero =>
    obtain ⟨-, rfl⟩ := require_bind_eq_ok.1 h
    exact ⟨rfl, rfl, fun _ => ⟨rfl, rfl⟩⟩
  | nice n =>
    cases n with
    | enabled | interval =>
      obtain ⟨-, rfl⟩ := require_bind_eq_ok.1 h
      exact ⟨rfl, rfl, fun _ => ⟨rfl, rfl⟩⟩

/-- A call that gives bounds sets both. -/
theorem bounds_of_apply {call : ScaleCall} {low high : ScaleInput}
    (h : s.apply r call = .ok s') (hgives : call.bounds? = some (low, high)) :
    ∃ v w, r.resolveDomain low = .ok v ∧ r.resolveDomain high = .ok w ∧
      s'.domainMin = some v ∧ s'.domainMax = some w := by
  cases call with
  | domainBounded input l u =>
    cases hgives
    obtain ⟨_, v, w, -, hv, hw, rfl⟩ := apply_domainBounded.1 h
    exact ⟨v, w, hv, hw, rfl, rfl⟩
  | domainBounds l u =>
    obtain ⟨rfl, rfl, -⟩ | ⟨_, _, v, w, rfl, rfl, hv, hw, rfl⟩ := setBounds_eq_ok.1 h
    · cases hgives
    · cases hgives
      exact ⟨v, w, hv, hw, rfl, rfl⟩
  | _ => cases hgives

/-! ### Values -/

section

variable {P Q : ScaleValue → Prop}

theorem forall_scaleValues : (∀ v ∈ s.scaleValues, P v) ↔ s.HasValues P P := by
  simp only [scaleValues, List.mem_append, Option.mem_toList, or_imp, forall_and, and_assoc]
  constructor
  · rintro ⟨hdomain, hmin, hmax, hrange, hrangeMin, hrangeMax⟩
    exact ⟨hdomain, hmin, hmax, hrange, hrangeMin, hrangeMax⟩
  · intro h
    exact ⟨h.domain, h.domainMin, h.domainMax, h.range, h.rangeMin, h.rangeMax⟩

/-- A scale takes its values from the registry, and keeps those that a call does not set. -/
theorem hasValues_apply {call : ScaleCall} (hr : r.Yields P Q) (hs : s.HasValues P Q)
    (h : s.apply r call = .ok s') : s'.HasValues P Q := by
  cases call with
  | domain input =>
    obtain ⟨v, hv, rfl⟩ := setDomain_eq_ok.1 h
    refine { hs with domain := ?_ }
    rintro _ ⟨⟩
    exact (hr.domain input v hv).1
  | domainBounded input low high =>
    obtain ⟨d, v, w, hd, hv, hw, rfl⟩ := apply_domainBounded.1 h
    refine { hs with domain := ?_, domainMin := ?_, domainMax := ?_ }
    · rintro _ ⟨⟩
      exact (hr.domain input d hd).1
    · rintro _ ⟨⟩
      exact (hr.domain low v hv).2
    · rintro _ ⟨⟩
      exact (hr.domain high w hw).2
  | domainBounds low high =>
    obtain ⟨-, -, rfl⟩ | ⟨l, u, v, w, -, -, hv, hw, rfl⟩ := setBounds_eq_ok.1 h
    · exact hs
    · refine { hs with domainMin := ?_, domainMax := ?_ }
      · rintro _ ⟨⟩
        exact (hr.domain l v hv).2
      · rintro _ ⟨⟩
        exact (hr.domain u w hw).2
  | domainFields references =>
    obtain ⟨ref, href, rfl⟩ := apply_domainFields.1 h
    refine { hs with domain := ?_ }
    rintro _ ⟨⟩
    exact hr.fields references ref href
  | range input =>
    obtain ⟨v, hv, rfl⟩ := apply_range.1 h
    refine { hs with range := ?_ }
    rintro _ ⟨⟩
    rcases Registry.keyword_or_resolveDomain hv with ⟨k, rfl⟩ | hdomain
    · exact hr.keyword k
    · exact (hr.domain input v hdomain).2
  | rangeKeyword k =>
    cases h
    refine { hs with range := ?_ }
    rintro _ ⟨⟩
    exact hr.keyword k
  | rangeMin input =>
    obtain ⟨v, hv, rfl⟩ := apply_rangeMin.1 h
    refine { hs with rangeMin := ?_ }
    rintro _ ⟨⟩
    exact (hr.domain input v hv).2
  | rangeMax input =>
    obtain ⟨v, hv, rfl⟩ := apply_rangeMax.1 h
    refine { hs with rangeMax := ?_ }
    rintro _ ⟨⟩
    exact (hr.domain input v hv).2
  | reverse | round =>
    cases h
    exact { hs with }
  | points | padding | sort | clamp | exponent | zero =>
    obtain ⟨-, rfl⟩ := require_bind_eq_ok.1 h
    exact { hs with }
  | nice n =>
    cases n with
    | enabled | interval =>
      obtain ⟨-, rfl⟩ := require_bind_eq_ok.1 h
      exact { hs with }

end

end Scale

end ChartSpec
