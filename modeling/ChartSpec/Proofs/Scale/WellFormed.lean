import ChartSpec.Proofs.Listed
import ChartSpec.Proofs.Scale.Bounds
import ChartSpec.Proofs.Scale.Fields

/-!
# Well-formed scales

Some properties are for some types of scales only:

    points, padding, sort      ordinal
    exponent                   pow, sqrt
    zero, nice on or off       quantitative
    nice to an interval        time, utc
    clamp                      quantitative, time, utc

The two bounds of a domain come in pairs.  Each call keeps all this, in whatever order the calls
come and however often (`Scale.fits_apply`).  A reference to several fields is for the domain only
and has a field.  The name is looked at when the scale is built, and no other scale gets it
afterwards (`Scale.isWellFormed_of_calls`).
-/

namespace ChartSpec

/-- The types of scales of numbers. -/
def ScaleType.quantitative : List ScaleType :=
  [.linear, .log, .pow, .sqrt, .quantile, .quantize, .threshold]

/-- The types of scales of times. -/
def ScaleType.ofTime : List ScaleType := [.time, .utc]

/-- The fields of a reference to several. -/
def ScaleValue.several? : ScaleValue → Option (List String)
  | .ref ⟨_, .many fields⟩ => some fields
  | _ => none

/-- An attribute has a value, be it null. -/
def Attributes.Has (as : Attributes) (name : String) : Prop :=
  ∃ a, (name, a) ∈ as ∧ a ≠ .undefined

namespace Scale

/-- The properties of a scale are for its type, and it has both bounds of a domain or none. -/
structure Fits (s : Scale) : Prop where
  points : s.points = true → s.type = .ordinal
  padding : s.padding.isSome = true → s.type = .ordinal
  sort : s.sort = true → s.type = .ordinal
  exponent : s.exponent.isSome = true → s.type = .pow ∨ s.type = .sqrt
  zero : s.zero.isSome = true → s.type ∈ ScaleType.quantitative
  clamp : s.clamp = true → s.type ∈ ScaleType.quantitative ∨ s.type ∈ ScaleType.ofTime
  interval : ∀ every, s.nice = some (.interval every) → s.type ∈ ScaleType.ofTime
  enabled : ∀ on, s.nice = some (.enabled on) → s.type ∈ ScaleType.quantitative
  paired : s.domainMin.isSome = s.domainMax.isSome

/-- Several fields are for the domain, and there are some. -/
def SeveralForDomain (s : Scale) : Prop :=
  s.HasValues (fun v => v.several? ≠ some []) fun v => v.several? = none

/-- What holds of each scale that has been built. -/
structure IsWellFormed (s : Scale) : Prop extends s.Fits where
  several : s.SeveralForDomain
  bounds : s.attributes.Has "domain_min" ↔ s.attributes.Has "domain_max"
  name : Text.isBlank s.name = false

end Scale

/-! ## Lemmas -/

namespace ScaleType

variable {t : ScaleType}

theorem isOrdinal_iff : t.isOrdinal = true ↔ t = .ordinal := by
  cases t <;> simp [isOrdinal]

theorem isTime_iff : t.isTime = true ↔ t ∈ ofTime := by
  cases t <;> decide

theorem isQuantitative_iff : t.isQuantitative = true ↔ t ∈ quantitative := by
  cases t <;> decide

theorem hasExponent_iff : t.hasExponent = true ↔ t = .pow ∨ t = .sqrt := by
  cases t <;> simp [hasExponent]

end ScaleType

/-! ### References to several fields -/

namespace Registry

variable {r : Registry} {input : ScaleInput} {v : ScaleValue}

theorem several?_of_resolveDomain (h : r.resolveDomain input = .ok v) : v.several? = none := by
  cases input with
  | reference token =>
    obtain ⟨_, href, rfl⟩ := map_eq_ok.1 h
    obtain ⟨_, -, rfl⟩ := map_eq_ok.1 href
    rfl
  | data name =>
    obtain ⟨_, -, rfl⟩ := map_eq_ok.1 h
    rfl
  | values | literal =>
    cases h
    rfl

/-- A domain has a field for each reference, of which there is always one. -/
theorem several?_of_resolveFields {tokens : List String} {ref : DataRef}
    (h : r.resolveFields tokens = .ok ref) : (ScaleValue.ref ref).several? ≠ some [] := by
  obtain ⟨hne, data, fields, rfl, hfields⟩ := resolveFields_eq_ok.1 h
  intro hempty
  obtain rfl : fields = [] := Option.some.inj hempty
  exact hne (List.forall₂_nil_right_iff.1 hfields)

theorem yields_several (r : Registry) :
    r.Yields (fun v => v.several? ≠ some []) fun v => v.several? = none where
  domain _ _ h := by simp [several?_of_resolveDomain h]
  fields _ _ h := several?_of_resolveFields h
  keyword _ := rfl

end Registry

namespace Scale

variable {r : Registry} {s s' : Scale}

/-! ### Calls -/

theorem severalForDomain_new (name : String) (type : ScaleType) :
    ({ name, type } : Scale).SeveralForDomain := by
  constructor <;> simp

theorem fits_new (name : String) (type : ScaleType) : ({ name, type } : Scale).Fits := by
  constructor <;> simp

/-- No call takes a scale to one that does not fit, whatever the call's inputs are. -/
theorem fits_apply {call : ScaleCall} (hs : s.Fits) (h : s.apply r call = .ok s') : s'.Fits := by
  cases call with
  | domain input =>
    obtain ⟨_, -, rfl⟩ := setDomain_eq_ok.1 h
    exact { hs with }
  | domainBounded input low high =>
    obtain ⟨_, _, _, -, -, -, rfl⟩ := apply_domainBounded.1 h
    exact { hs with paired := rfl }
  | domainBounds low high =>
    obtain ⟨-, -, rfl⟩ | ⟨_, _, _, _, -, -, -, -, rfl⟩ := setBounds_eq_ok.1 h
    · exact hs
    · exact { hs with paired := rfl }
  | domainFields references =>
    obtain ⟨_, -, rfl⟩ := apply_domainFields.1 h
    exact { hs with }
  | range input =>
    obtain ⟨_, -, rfl⟩ := apply_range.1 h
    exact { hs with }
  | rangeMin input =>
    obtain ⟨_, -, rfl⟩ := apply_rangeMin.1 h
    exact { hs with }
  | rangeMax input =>
    obtain ⟨_, -, rfl⟩ := apply_rangeMax.1 h
    exact { hs with }
  | rangeKeyword | reverse | round =>
    cases h
    exact { hs with }
  | points =>
    obtain ⟨htype, rfl⟩ := require_bind_eq_ok.1 h
    exact { hs with points := fun _ => ScaleType.isOrdinal_iff.1 htype }
  | padding x =>
    obtain ⟨htype, rfl⟩ := require_bind_eq_ok.1 h
    exact { hs with padding := fun _ => ScaleType.isOrdinal_iff.1 htype }
  | sort =>
    obtain ⟨htype, rfl⟩ := require_bind_eq_ok.1 h
    exact { hs with sort := fun _ => ScaleType.isOrdinal_iff.1 htype }
  | clamp =>
    obtain ⟨htype, rfl⟩ := require_bind_eq_ok.1 h
    rw [Bool.or_eq_true, ScaleType.isQuantitative_iff, ScaleType.isTime_iff] at htype
    exact { hs with clamp := fun _ => htype }
  | nice n =>
    cases n with
    | interval every =>
      obtain ⟨htype, rfl⟩ := require_bind_eq_ok.1 h
      exact { hs with
        interval := fun _ _ => ScaleType.isTime_iff.1 htype
        enabled := by rintro _ ⟨⟩ }
    | enabled on =>
      obtain ⟨htype, rfl⟩ := require_bind_eq_ok.1 h
      exact { hs with
        interval := by rintro _ ⟨⟩
        enabled := fun _ _ => ScaleType.isQuantitative_iff.1 htype }
  | exponent x =>
    obtain ⟨htype, rfl⟩ := require_bind_eq_ok.1 h
    exact { hs with exponent := fun _ => ScaleType.hasExponent_iff.1 htype }
  | zero on =>
    obtain ⟨htype, rfl⟩ := require_bind_eq_ok.1 h
    exact { hs with zero := fun _ => ScaleType.isQuantitative_iff.1 htype }

/-! ### Bounds -/

theorem has_scaleValue {name : String} (value : Option ScaleValue)
    (honly : ∀ a, (name, a) ∈ s.attributes ↔ a = scaleValue value) :
    s.attributes.Has name ↔ value.isSome = true := by
  have hvalue : scaleValue value ≠ .undefined ↔ value.isSome = true := by
    cases value with
    | none => simp [scaleValue]
    | some v => cases v <;> simp [scaleValue, ScaleValue.toAttribute]
  simp only [Attributes.Has, honly, exists_eq_left, hvalue]

theorem has_domainMin : s.attributes.Has "domain_min" ↔ s.domainMin.isSome = true :=
  has_scaleValue s.domainMin (by simp [attributes])

theorem has_domainMax : s.attributes.Has "domain_max" ↔ s.domainMax.isSome = true :=
  has_scaleValue s.domainMax (by simp [attributes])

/-- There is a lower bound once a call has given bounds. -/
theorem BoundsFrom.isSome_domainMin {b : Option (ScaleInput × ScaleInput)} (hs : s.BoundsFrom b) :
    s.domainMin.isSome = b.isSome := by
  cases hs with
  | none hmin _ => rw [hmin]; rfl
  | both _ _ hmin _ => rw [hmin]; rfl

end Scale

theorem isSome_lastBounds? {calls : List (Registry × ScaleCall)} :
    (lastBounds? calls).isSome = true ↔ ∃ p ∈ calls, p.2.bounds? ≠ none := by
  induction calls with
  | nil => simp [lastBounds?]
  | cons p rest ih =>
    rw [lastBounds?, Option.isSome_or, Bool.or_eq_true, ih, Option.isSome_iff_ne_none, or_comm]
    simp only [List.mem_cons, exists_eq_or_imp]

/-! ### Names -/

/-- The scales of a name are one scale if there is one of the name and not a second. -/
theorem Registry.scales_filter_eq {r : Registry} {s : Scale} (hs : s ∈ r.scales)
    (hle : r.count .scale s.name ≤ 1) : r.scales.filter (fun t => t.name == s.name) = [s] := by
  have hmem : s ∈ r.scales.filter fun t => t.name == s.name := by simp [hs]
  rw [count, List.countP_eq_length_filter] at hle
  obtain ⟨t, ht⟩ := List.length_eq_one_iff.1
    (Nat.le_antisymm hle (List.length_pos_of_mem hmem))
  rw [ht] at hmem ⊢
  rw [List.mem_singleton.1 hmem]

/-! ## Top theorem -/

/-- A scale is built by calls, each beside the registry of its moment.  It is well formed, of the
name and the type that it was started with, and has the bounds of a domain exactly if some call
gives them.  Whatever happens afterwards, it is the one scale of its name. -/
theorem Scale.isWellFormed_of_calls {name : String} {type : ScaleType}
    {calls : List (Registry × ScaleCall)} {last grown : Registry} {draft s : Scale}
    (hrun : applyAll applyAt { name, type } calls = .ok draft)
    (hbuilt : last.addScale draft = .ok (grown, s)) :
    s.IsWellFormed ∧ s.name = name ∧ s.type = type ∧
    (s.attributes.Has "domain_min" ↔ ∃ p ∈ calls, p.2.bounds? ≠ none) ∧
    ∀ b : Bench, b.registry = grown → ∀ moves,
      (b.run moves).registry.scales.filter (fun t => t.name == name) = [s] := by
  obtain ⟨hname, hfree, rfl, rfl⟩ := Registry.addScale_eq_ok.1 hbuilt
  have hfold := applyAll_eq_ok.1 hrun
  have hkept : (s.Fits ∧ s.SeveralForDomain) ∧ s.name = name ∧ s.type = type := by
    refine foldlM_induction
      (P := fun d => (d.Fits ∧ d.SeveralForDomain) ∧ d.name = name ∧ d.type = type) hfold
      ⟨⟨fits_new name type, severalForDomain_new name type⟩, rfl, rfl⟩ ?_
    rintro p - d d' ⟨⟨hfits, hseveral⟩, hn, ht⟩ happly
    obtain ⟨hn', ht', -⟩ := apply_frame happly
    exact ⟨⟨fits_apply hfits happly, hasValues_apply p.1.yields_several hseveral happly⟩,
      hn'.trans hn, ht'.trans ht⟩
  obtain ⟨⟨hfits, hseveral⟩, rfl, rfl⟩ := hkept
  refine ⟨⟨hfits, hseveral, ?_, hname⟩, rfl, rfl, ?_, ?_⟩
  · rw [has_domainMin, has_domainMax, hfits.paired]
  · rw [has_domainMin, (boundsFrom_of_new hfold).isSome_domainMin, isSome_lastBounds?]
  · intro b hb moves
    have hcount : (last.put (.scale s)).count .scale s.name ≤ 1 := by
      rw [Registry.count_put, Registry.count_scale_eq_zero.2 hfree]
      simp [Part.key?]
    have hs : s ∈ (b.run moves).registry.scales :=
      (b.grows_run moves).scales.subset (by simp [hb])
    exact Registry.scales_filter_eq hs (Bench.count_le_one_run (hb ▸ hcount) moves)

/-- Calls on a scale over two fields, which has been given another domain before. -/
def ScaleCall.twoFields : List (Registry × ScaleCall) := [
  (Registry.priced, .nice (.enabled true)),
  (Registry.priced, .exponent .one),
  (Registry.priced, .domain (.literal .null)),
  (Registry.priced, .domainFields ["table.price", "table.max"]),
  (Registry.priced, .domainBounds (some (.literal (.int 0))) (some (.reference "table.max")))]

/-- The scale stays the only one of its name when the name is given once more. -/
theorem Scale.isWellFormed_twoFields :
    ∃ draft grown, applyAll applyAt { name := "x", type := .pow } ScaleCall.twoFields =
        .ok draft ∧
      Registry.priced.addScale draft = .ok (grown, draft) ∧
      draft.IsWellFormed ∧ draft.attributes.Has "domain_max" ∧
      (Bench.run { registry := grown } [.start .scale ("x", .ordinal),
        .finish .scale 0]).registry.scales.filter (fun t => t.name == "x") = [draft] := by
  obtain ⟨draft, hrun, grown, hbuilt⟩ :
      ∃ draft, applyAll applyAt { name := "x", type := .pow } ScaleCall.twoFields = .ok draft ∧
        ∃ grown, Registry.priced.addScale draft = .ok (grown, draft) := ⟨_, rfl, _, rfl⟩
  obtain ⟨hwell, -, -, hmin, hone⟩ := isWellFormed_of_calls hrun hbuilt
  refine ⟨draft, grown, hrun, hbuilt, hwell, hwell.bounds.1 (hmin.2 ?_), hone _ rfl _⟩
  exact ⟨_, List.mem_of_getElem? (i := 4) rfl, nofun⟩

end ChartSpec
