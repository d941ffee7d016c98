import ChartSpec.Proofs.Mark.Styling
import ChartSpec.Proofs.Registration
import ChartSpec.Proofs.Scale.Fields
import ChartSpec.Proofs.Transform.Attach

/-!
# Steps in a larger registry

What a step finds in a registry it finds as well when the registry has grown, since a part is
found under its name before all that come later.  So a step that makes a part makes the same part
in a larger registry (`Step.make_of_grows`), unless it drops an edit because the scale of the edit
is missing, and the larger registry has that scale.
-/

namespace ChartSpec

/-- The edits that a call makes. -/
def MarkCall.edits : MarkCall → List ChannelEdit
  | .style _ edits => edits
  | _ => []

def AxisCall.edits : AxisCall → List ChannelEdit
  | .style _ edits => edits
  | _ => []

def PartKind.edits : (k : PartKind) → k.Call → List ChannelEdit
  | .data => fun _ => []
  | .scale => fun _ => []
  | .mark => MarkCall.edits
  | .axis => AxisCall.edits

/-- The edits that a step makes. -/
def Step.edits : Step → List ChannelEdit
  | .data _ calls => calls.flatMap PartKind.data.edits
  | .scale _ _ calls => calls.flatMap PartKind.scale.edits
  | .transform _ _ => []
  | .mark _ calls => calls.flatMap PartKind.mark.edits
  | .axis _ calls => calls.flatMap PartKind.axis.edits
  | .visualization _ => []

/-- An edit that may be dropped finds the same scale in both registries, or none in both. -/
def ChannelEdit.Settled (r r' : Registry) (e : ChannelEdit) : Prop :=
  e.lenient → ∀ name, e.value.scale = some (.name name) → r'.findScale? name = r.findScale? name

/-! ## Lemmas -/

/-! ### Attaching -/

section

variable {known known' : KnownData} {fields fields' : FieldSet}

theorem Slot.resolve_of_known (hk : ∀ n theirs, known n = some theirs → known' n = some theirs)
    {other : String → Option String} {p : Property} {slot slot' : Slot p}
    (h : slot.resolve known fields other = .ok slot') :
    slot.resolve known' fields other = .ok slot' := by
  unfold resolve at h ⊢
  cases hrole : p.role with
  | plain => simpa only [hrole] using h
  | data => simpa only [hrole] using h
  | field => simpa only [hrole] using h
  | sortKey => simpa only [hrole] using h
  | fieldOf property =>
    simp only [hrole] at h ⊢
    split at h
    · rename_i v name hother
      simp only [KnownData.demand, bind_eq_ok, demand_eq_ok, pure_eq_ok] at h
      obtain ⟨theirs, htheirs, rfl⟩ := h
      simp [KnownData.demand, hk name theirs htheirs]
    · exact h

theorem Record.resolve_of_known (hk : ∀ n theirs, known n = some theirs → known' n = some theirs)
    {other : String → Option String} {ps : List Property} {r r' : Record ps}
    (h : r.resolve known fields other = .ok r') : r.resolve known' fields other = .ok r' := by
  induction r with
  | nil => exact h
  | @cons p ps slot rest ih =>
    simp only [resolve, bind_eq_ok, pure_eq_ok] at h ⊢
    obtain ⟨slot', hslot, rest', hrest, rfl⟩ := h
    exact ⟨slot', Slot.resolve_of_known hk hslot, rest', ih hrest, rfl⟩

namespace Transform

variable {t t' : Transform}

theorem validate_of_known (hk : ∀ n theirs, known n = some theirs → known' n = some theirs)
    (h : t.validate known = .ok ()) : t.validate known' = .ok () := by
  refine Record.validate_eq_ok.2 fun n hn => ?_
  obtain ⟨theirs, htheirs⟩ := Option.isSome_iff_exists.1 (Record.validate_eq_ok.1 h n hn)
  rw [hk n theirs htheirs]
  rfl

theorem attach_of_known (hk : ∀ n theirs, known n = some theirs → known' n = some theirs)
    (h : t.attach known fields = .ok (t', fields')) :
    t.attach known' fields = .ok (t', fields') := by
  obtain ⟨hcheck, hvalid, hresolve, rfl⟩ := attach_eq_ok.1 h
  refine attach_eq_ok.2 ⟨hcheck, validate_of_known hk hvalid, ?_, rfl⟩
  simp only [resolve, bind_eq_ok, pure_eq_ok] at hresolve ⊢
  obtain ⟨r, hr, rfl⟩ := hresolve
  exact ⟨r, Record.resolve_of_known hk hr, rfl⟩

end Transform

end

namespace Registry.Grows

variable {r r' : Registry} (h : r.Grows r')

include h

/-! ### Finding -/

theorem findData? {name : String} {d : Data} (hd : r.findData? name = some d) :
    r'.findData? name = some d :=
  h.data.find?_eq_some hd

theorem findScale? {name : String} {s : Scale} (hs : r.findScale? name = some s) :
    r'.findScale? name = some s :=
  h.scales.find?_eq_some hs

theorem expectData {name : String} {d : Data} (hd : r.expectData name = .ok d) :
    r'.expectData name = .ok d :=
  expectData_eq_ok.2 (h.findData? (expectData_eq_ok.1 hd))

theorem known (name : String) (fields : FieldSet) (hf : r.known name = some fields) :
    r'.known name = some fields := by
  obtain ⟨d, hd, rfl⟩ := Option.map_eq_some_iff.1 hf
  exact Option.map_eq_some_iff.2 ⟨d, h.findData? hd, rfl⟩

/-! ### Resolving -/

theorem resolveReference {token : String} {place : String × String}
    (hplace : r.resolveReference token = .ok place) : r'.resolveReference token = .ok place := by
  simp only [Registry.resolveReference, bind_eq_ok] at hplace ⊢
  obtain ⟨d, hd, hplace⟩ := hplace
  exact ⟨d, h.expectData hd, hplace⟩

theorem resolveDataRef {token : String} {ref : DataRef}
    (href : r.resolveDataRef token = .ok ref) : r'.resolveDataRef token = .ok ref := by
  obtain ⟨place, hplace, rfl⟩ := map_eq_ok.1 href
  exact map_eq_ok.2 ⟨place, h.resolveReference hplace, rfl⟩

theorem resolveDomain {input : ScaleInput} {v : ScaleValue}
    (hv : r.resolveDomain input = .ok v) : r'.resolveDomain input = .ok v := by
  cases input with
  | reference token =>
    obtain ⟨ref, href, rfl⟩ := map_eq_ok.1 hv
    exact map_eq_ok.2 ⟨ref, h.resolveDataRef href, rfl⟩
  | data name =>
    obtain ⟨d, hd, rfl⟩ := map_eq_ok.1 hv
    exact map_eq_ok.2 ⟨d, h.expectData hd, rfl⟩
  | values vs => exact hv
  | literal v' => exact hv

/-- A text that was taken for a data set was no keyword, and no data set comes before a keyword. -/
theorem resolveRange {input : ScaleInput} {v : ScaleValue}
    (hv : r.resolveRange input = .ok v) : r'.resolveRange input = .ok v := by
  cases input with
  | reference token =>
    unfold Registry.resolveRange at hv ⊢
    cases hkeyword : RangeKeyword.ofName? token with
    | some k => simpa only [hkeyword] using hv
    | none =>
      simp only [hkeyword] at hv ⊢
      split at hv
      · rename_i hknown
        have hknown' : '.' ∈ token.toList ∨ (r'.findData? token).isSome := by
          rcases hknown with hpoint | hsome
          · exact .inl hpoint
          · obtain ⟨d, hd⟩ := Option.isSome_iff_exists.1 hsome
            exact .inr (Option.isSome_iff_exists.2 ⟨d, h.findData? hd⟩)
        obtain ⟨ref, href, rfl⟩ := map_eq_ok.1 hv
        rw [if_pos hknown']
        exact map_eq_ok.2 ⟨ref, h.resolveDataRef href, rfl⟩
      · cases hv
  | data name =>
    have hdomain : r.resolveDomain (.data name) = .ok v := hv
    exact h.resolveDomain hdomain
  | values vs => exact hv
  | literal v' => exact hv

theorem resolveFields {tokens : List String} {ref : DataRef}
    (href : r.resolveFields tokens = .ok ref) : r'.resolveFields tokens = .ok ref := by
  obtain ⟨hne, data, fields, rfl, hfields⟩ := resolveFields_eq_ok.1 href
  exact resolveFields_eq_ok.2
    ⟨hne, data, fields, rfl, hfields.imp fun _ _ => h.resolveDataRef⟩

theorem resolveScale {s : ScaleReference} {name : String} (hs : s.resolve r = .ok name) :
    s.resolve r' = .ok name := by
  cases s with
  | name key =>
    obtain ⟨scale, hscale, rfl⟩ := map_eq_ok.1 hs
    exact map_eq_ok.2 ⟨scale, expectScale_eq_ok.2 (h.findScale? (expectScale_eq_ok.1 hscale)), rfl⟩
  | object key => exact hs

theorem resolveValue {fields : FieldSet} {v : ValueSpec} {ref : ValueRef}
    (hv : v.resolve r fields = .ok ref) : v.resolve r' fields = .ok ref := by
  unfold ValueSpec.resolve at hv ⊢
  cases hscale : v.scale with
  | none => simpa only [hscale] using hv
  | some s =>
    simp only [hscale, bind_eq_ok, map_eq_ok] at hv ⊢
    obtain ⟨_, ⟨name, hname, rfl⟩, hrest⟩ := hv
    exact ⟨_, ⟨name, h.resolveScale hname, rfl⟩, hrest⟩

theorem setKey {type : Option MarkType} {fields : FieldSet} {s s' : Styling} {key : ChannelKey}
    {v : ValueSpec} (hset : s.setKey r type fields key v = .ok s') :
    s.setKey r' type fields key v = .ok s' := by
  obtain ⟨c, w, hc, hvalid, hw, rfl⟩ := Styling.setKey_eq_ok.1 hset
  exact Styling.setKey_eq_ok.2 ⟨c, w, hc, hvalid, h.resolveValue hw, rfl⟩

omit h in
/-- A value that finds the same scale resolves alike, or is refused alike. -/
theorem resolveValue_eq {v : ValueSpec}
    (hscale : ∀ name, v.scale = some (.name name) → r'.findScale? name = r.findScale? name)
    (fields : FieldSet) : v.resolve r' fields = v.resolve r fields := by
  unfold ValueSpec.resolve
  cases hv : v.scale with
  | none => rfl
  | some ref =>
    cases ref with
    | object key => rfl
    | name key =>
      have hsame : (ScaleReference.name key).resolve r' = (ScaleReference.name key).resolve r := by
        show (r'.expectScale key).map Scale.name = (r.expectScale key).map Scale.name
        unfold Registry.expectScale
        rw [hscale key hv]
      simp only [hsame]

/-- An edit that is settled has the same effect in a larger registry, dropped or not. -/
theorem edit {type : Option MarkType} {fields : FieldSet} {s s' : Styling} {e : ChannelEdit}
    (hsettled : e.Settled r r') (he : s.edit r type fields e = .ok s') :
    s.edit r' type fields e = .ok s' := by
  rcases Styling.edit_eq_ok.1 he with hset | ⟨⟨error, herror⟩, hlenient, rfl⟩
  · exact Styling.edit_eq_ok.2 (.inl (h.setKey hset))
  · refine Styling.edit_eq_ok.2 (.inr ⟨⟨error, ?_⟩, hlenient, rfl⟩)
    rw [← herror]
    unfold Styling.setKey Styling.setChannel
    rw [resolveValue_eq (hsettled hlenient)]

theorem ofEdits {type : Option MarkType} {fields : FieldSet} {s : Styling}
    {edits : List ChannelEdit} (hsettled : ∀ e ∈ edits, e.Settled r r')
    (hs : Styling.ofEdits r type fields edits = .ok s) :
    Styling.ofEdits r' type fields edits = .ok s :=
  foldlM_eq_ok_of_imp (fun e he _ _ => h.edit (hsettled e he)) hs

/-! ### Calls -/

theorem dataApply {d d' : Data} {call : DataCall} (hd : d.apply r call = .ok d') :
    d.apply r' call = .ok d' := by
  have htransform : ∀ (d d' : Data) (t : Transform),
      d.addTransform r t = .ok d' → d.addTransform r' t = .ok d' := by
    intro d d' t ht
    simp only [Data.addTransform, bind_eq_ok, inPlace_eq_ok] at ht ⊢
    obtain ⟨_, hattach, hmade⟩ := ht
    exact ⟨_, Transform.attach_of_known h.known hattach, hmade⟩
  cases call with
  | values v => exact hd
  | valuesText text problem => exact hd
  | source name =>
    simp only [Data.apply, Data.setSource] at hd ⊢
    split at hd
    · rename_i hempty
      simp only [bind_eq_ok] at hd
      obtain ⟨source, hsource, hmade⟩ := hd
      rw [if_pos hempty]
      exact bind_eq_ok.2 ⟨source, h.expectData hsource, hmade⟩
    · cases hd
  | url url => exact hd
  | format f => exact hd
  | transform t => exact htransform d d' t hd
  | transforms ts => exact foldlM_eq_ok_of_imp (fun t _ d d' => htransform d d' t) hd

theorem scaleApply {s s' : Scale} {call : ScaleCall} (hs : s.apply r call = .ok s') :
    s.apply r' call = .ok s' := by
  cases call with
  | domain input =>
    obtain ⟨v, hv, rfl⟩ := Scale.setDomain_eq_ok.1 hs
    exact Scale.setDomain_eq_ok.2 ⟨v, h.resolveDomain hv, rfl⟩
  | domainBounded input low high =>
    obtain ⟨d, v, w, hd, hv, hw, rfl⟩ := Scale.apply_domainBounded.1 hs
    exact Scale.apply_domainBounded.2
      ⟨d, v, w, h.resolveDomain hd, h.resolveDomain hv, h.resolveDomain hw, rfl⟩
  | domainBounds low high =>
    rcases Scale.setBounds_eq_ok.1 hs with hnone | ⟨l, u, v, w, hl, hu, hv, hw, rfl⟩
    · exact Scale.setBounds_eq_ok.2 (.inl hnone)
    · exact Scale.setBounds_eq_ok.2
        (.inr ⟨l, u, v, w, hl, hu, h.resolveDomain hv, h.resolveDomain hw, rfl⟩)
  | domainFields references =>
    obtain ⟨ref, href, rfl⟩ := Scale.apply_domainFields.1 hs
    exact Scale.apply_domainFields.2 ⟨ref, h.resolveFields href, rfl⟩
  | range input =>
    obtain ⟨v, hv, rfl⟩ := Scale.apply_range.1 hs
    exact Scale.apply_range.2 ⟨v, h.resolveRange hv, rfl⟩
  | rangeMin input =>
    obtain ⟨v, hv, rfl⟩ := Scale.apply_rangeMin.1 hs
    exact Scale.apply_rangeMin.2 ⟨v, h.resolveDomain hv, rfl⟩
  | rangeMax input =>
    obtain ⟨v, hv, rfl⟩ := Scale.apply_rangeMax.1 hs
    exact Scale.apply_rangeMax.2 ⟨v, h.resolveDomain hv, rfl⟩
  | nice n => cases n <;> exact hs
  | _ => exact hs

theorem markApply {m m' : Mark} {call : MarkCall} (hsettled : ∀ e ∈ call.edits, e.Settled r r')
    (hm : m.apply r call = .ok m') : m.apply r' call = .ok m' := by
  cases call with
  | fromData name =>
    simp only [Mark.apply, Mark.setData, bind_eq_ok, inPlace_eq_ok] at hm ⊢
    obtain ⟨u, hfree, d, hd, hmade⟩ := hm
    exact ⟨u, hfree, d, h.expectData hd, hmade⟩
  | fromTransform t =>
    simp only [Mark.apply, Mark.addTransform, bind_eq_ok] at hm ⊢
    obtain ⟨_, hattach, hmade⟩ := hm
    exact ⟨_, Transform.attach_of_known h.known hattach, hmade⟩
  | style state edits =>
    simp only [Mark.apply, bind_eq_ok] at hm ⊢
    obtain ⟨s, hs, hmade⟩ := hm
    exact ⟨s, h.ofEdits hsettled hs, hmade⟩
  | delay value =>
    simp only [Mark.apply, bind_eq_ok] at hm ⊢
    obtain ⟨v, hv, hmade⟩ := hm
    exact ⟨v, h.resolveValue hv, hmade⟩
  | _ => exact hm

theorem axisApply {a a' : AxisDraft} {call : AxisCall} (hsettled : ∀ e ∈ call.edits, e.Settled r r')
    (ha : a.apply r call = .ok a') : a.apply r' call = .ok a' := by
  cases call with
  | scale s =>
    simp only [AxisDraft.apply, bind_eq_ok, inPlace_eq_ok] at ha ⊢
    obtain ⟨name, hname, hmade⟩ := ha
    exact ⟨name, h.resolveScale hname, hmade⟩
  | style part edits =>
    simp only [AxisDraft.apply, bind_eq_ok] at ha ⊢
    obtain ⟨s, hs, hmade⟩ := ha
    exact ⟨s, h.ofEdits hsettled hs, hmade⟩
  | _ => exact ha

theorem apply {k : PartKind} {d d' : k.Draft} {call : k.Call}
    (hsettled : ∀ e ∈ k.edits call, e.Settled r r') (hd : k.apply r d call = .ok d') :
    k.apply r' d call = .ok d' := by
  cases k with
  | data => exact h.dataApply hd
  | scale => exact h.scaleApply hd
  | mark => exact h.markApply hsettled hd
  | axis => exact h.axisApply hsettled hd

end Registry.Grows

/-! ### Parts -/

theorem PartKind.make_of_grows {r r' : Registry} (h : r.Grows r') {k : PartKind} {seed : k.Seed}
    {calls : List k.Call} {made : k.Made} (hsettled : ∀ e ∈ calls.flatMap k.edits, e.Settled r r')
    (hmade : k.make r seed calls = .ok made) : k.make r' seed calls = .ok made := by
  have hcalls : ∀ call ∈ calls, ∀ e ∈ k.edits call, e.Settled r r' :=
    fun call hcall e he => hsettled e (List.mem_flatMap.2 ⟨call, hcall, he⟩)
  simp only [make, bind_eq_ok, finishing_eq_ok, applyAll_eq_ok] at hmade ⊢
  obtain ⟨d, hd, hfinish⟩ := hmade
  exact ⟨d, foldlM_eq_ok_of_imp (fun call hcall _ _ => h.apply (hcalls call hcall)) hd, hfinish⟩

/-! ## Top theorem -/

/-- A step that makes a part makes the same part in a larger registry, if the edits that it may
drop are settled. -/
theorem Step.make_of_grows {r r' : Registry} (h : r.Grows r') {config : Config} {step : Step}
    {part : Part} (hsettled : ∀ e ∈ step.edits, e.Settled r r')
    (hmake : step.make config r = .ok part) : step.make config r' = .ok part := by
  cases step with
  | data name calls =>
    obtain ⟨d, hd, rfl⟩ := map_eq_ok.1 hmake
    exact map_eq_ok.2 ⟨d, PartKind.make_of_grows (k := .data) h hsettled hd, rfl⟩
  | scale name type calls =>
    obtain ⟨s, hs, rfl⟩ := map_eq_ok.1 hmake
    exact map_eq_ok.2 ⟨s, PartKind.make_of_grows (k := .scale) h hsettled hs, rfl⟩
  | transform kind properties =>
    have hsame : ∀ t, makeTransform r kind properties = .ok t →
        makeTransform r' kind properties = .ok t := by
      intro t ht
      simp only [makeTransform, bind_eq_ok, inPlace_eq_ok, pure_eq_ok] at ht ⊢
      obtain ⟨t, ht, _, hvalid, rfl⟩ := ht
      exact ⟨t, ht, (), Transform.validate_of_known h.known hvalid, rfl⟩
    simp only [make] at hmake ⊢
    split at hmake
    · rename_i t ht
      rw [hsame t ht]
      exact hmake
    · cases hmake
  | mark type calls =>
    obtain ⟨m, hm, rfl⟩ := map_eq_ok.1 hmake
    exact map_eq_ok.2 ⟨m, PartKind.make_of_grows (k := .mark) h hsettled hm, rfl⟩
  | axis type calls =>
    obtain ⟨a, ha, rfl⟩ := map_eq_ok.1 hmake
    exact map_eq_ok.2 ⟨a, PartKind.make_of_grows (k := .axis) h hsettled ha, rfl⟩
  | visualization calls => exact hmake

end ChartSpec
