import ChartSpec.Proofs.Collected
import ChartSpec.Proofs.Mark.WellFormed
import ChartSpec.Proofs.Refusals

/-!
# Whose fault an error is

An error is a fault of the library, of a JSON text, of a URL, or a refusal.  While a chart is built
only two of these come up:

    the address of a data set     refused, or a fault of the URL
    anything else                 refused

So the input is always to blame (`Error.BlamesInput`), whatever is asked for and whatever has been
registered (`Registry.errors_blame_input`).  A step fails with the error of one call, of which it
says which it was, or of its registration.  A visualization fails at a call only, since it is
returned whatever it refers to (`VisualizationDraft.compile_eq`).  A script that styles a mark may
give up with an error of its own, which is handed on whatever it is (`Mark.act_giveUp_own`).
-/

namespace ChartSpec

/-- An error that the input is to blame for, and a URL only if one was given. -/
structure Error.BlamesInput (urlGiven : Prop) (e : Error) : Prop where
  isInput : e.isInput = true
  notInternal : ∀ message, e.cause ≠ .internal message
  notJson : ∀ message, e.cause ≠ .json message
  url : ∀ u, e.cause = .url u → urlGiven

/-! ## Requests -/

/-- Whether a call gives a data set its address. -/
def PartKind.GivesUrl : (k : PartKind) → k.Call → Prop
  | .data, .url _ => True
  | _, _ => False

/-- What may be asked for while a chart is built. -/
inductive Request where
  | call (k : PartKind) (d : k.Draft) (c : k.Call)
  | add (k : PartKind) (d : k.Draft)
  | format (name : String)
  | setFormat (f : DataFormat) (setting : FormatSetting)
  | setChannel (type : Option MarkType) (fields : FieldSet) (s : Styling) (key : ChannelKey)
    (v : ValueSpec)
  | properties (kind : TransformKind) (values : Json)
  | transform (kind : TransformKind) (values : Json)
  | attach (fields : FieldSet) (t : Transform)
  | callVisualization (d : VisualizationDraft) (c : VisualizationCall)
  | compile (d : VisualizationDraft)
  | dangling (v : Visualization)

namespace Request

/-- Whether a request fails, and how. -/
def outcome (r : Registry) (config : Config) : Request → Except Error Unit
  | call k d c => (k.apply r d c).map fun _ => ()
  | add k d => (k.add r d).map fun _ => ()
  | format name => (DataFormat.ofName name).map fun _ => ()
  | setFormat f setting => (f.apply setting).map fun _ => ()
  | setChannel type fields s key v => (s.setKey r type fields key v).map fun _ => ()
  | .properties kind values => (Transform.ofProperties kind values).map fun _ => ()
  | transform kind values => (r.buildTransform kind values).map fun _ => ()
  | attach fields t => (t.attach r.known fields).map fun _ => ()
  | callVisualization d c => (d.apply c).map fun _ => ()
  | compile d => (d.compile config).map fun _ => ()
  | dangling v => v.danglingReferences.map fun _ => ()

def GivesUrl : Request → Prop
  | call k _ c => k.GivesUrl c
  | _ => False

end Request

/-- Whether the call of a step before which so many have succeeded gives a data set its address. -/
def Step.GivesUrlAt (done : Nat) : Step → Prop
  | .data _ calls => ∃ url, calls[done]? = some (.url url)
  | _ => False

namespace Error

variable {urlGiven : Prop} {e : Error}

theorem IsRefusal.blamesInput (h : e.IsRefusal) : e.BlamesInput urlGiven := by
  obtain ⟨refusal, hcause⟩ := h
  constructor <;> simp [isInput, hcause]

theorem blamesInput_of_url {u : UrlError} (h : e.cause = .url u) (hgiven : urlGiven) :
    e.BlamesInput urlGiven := by
  constructor <;> simp [isInput, h, hgiven]

theorem BlamesInput.mono {urlGiven' : Prop} (h : e.BlamesInput urlGiven)
    (himp : urlGiven → urlGiven') : e.BlamesInput urlGiven' :=
  { h with url := fun u hu => himp (h.url u hu) }

end Error

/-! ### Requests -/

section

variable {r : Registry}

/-- A call on a data set is refused, or its URL is at fault. -/
theorem Data.blamesInput_of_apply {d : Data} {call : DataCall} {e : Error}
    (h : d.apply r call = .error e) : e.BlamesInput (PartKind.data.GivesUrl call) := by
  have hvalues : ∀ v, OnlyRefuses (d.setValues v) := by simp [setValues]
  have hadd : ∀ (d : Data) t, OnlyRefuses (d.addTransform r t) := by simp [addTransform]
  cases call with
  | url text =>
    rw [apply] at h
    split at h
    · cases h
    · cases h
      exact Error.blamesInput_of_url rfl trivial
  | values v => exact (hvalues v e h).blamesInput
  | valuesText text problem =>
    refine Error.IsRefusal.blamesInput (OnlyRefuses.bind ?_ hvalues e h)
    exact OnlyRefuses.inPlace_iff.2 (.demand _ _)
  | source name =>
    have hsource : OnlyRefuses (d.setSource r name) := by simp [setSource]
    exact (hsource e h).blamesInput
  | format f => cases h
  | transform t => exact (hadd d t e h).blamesInput
  | transforms ts => exact (OnlyRefuses.foldlM hadd e h).blamesInput

theorem PartKind.blamesInput_of_apply {k : PartKind} {d : k.Draft} {call : k.Call} {e : Error}
    (h : k.apply r d call = .error e) : e.BlamesInput (k.GivesUrl call) := by
  cases k with
  | data => exact Data.blamesInput_of_apply h
  | scale => exact (OnlyRefuses.applyScale r d call e h).blamesInput
  | mark => exact (OnlyRefuses.applyMark r d call e h).blamesInput
  | axis => exact (OnlyRefuses.applyAxis r d call e h).blamesInput

/-- The references of a visualization are always found. -/
theorem Visualization.exists_danglingReferences (v : Visualization) :
    ∃ names, v.danglingReferences = .ok names := by
  rw [danglingReferences, references_eq]
  exact ⟨_, rfl⟩

theorem Visualization.exists_notices (v : Visualization) (config : Config) :
    ∃ told, v.notices config = .ok told := by
  obtain ⟨names, hnames⟩ := v.exists_danglingReferences
  rw [notices, hnames]
  split <;> exact ⟨_, rfl⟩

/-- A visualization is returned whatever it refers to. -/
theorem VisualizationDraft.compile_eq (d : VisualizationDraft) (config : Config) :
    d.compile config = .ok d.finish := by
  obtain ⟨told, htold⟩ := d.finish.exists_notices config
  exact bind_eq_ok.2 ⟨told, htold, rfl⟩

/-- A visualization fails at a call, if it fails. -/
theorem Visualization.build_eq (config : Config) (calls : List VisualizationCall) :
    Visualization.build config calls =
      (applyAll VisualizationDraft.apply (.start config) calls).map VisualizationDraft.finish := by
  rw [Visualization.build]
  cases applyAll VisualizationDraft.apply (.start config) calls with
  | error failure => rfl
  | ok d =>
    show finishing calls (VisualizationDraft.compile config) d = .ok d.finish
    rw [finishing, d.compile_eq config]

/-- Building a part fails at one call or at its registration. -/
theorem PartKind.build_eq_error {k : PartKind} {seed : k.Seed} {calls : List k.Call}
    {failure : Failure} (h : k.build r seed calls = .error failure) :
    (∃ d call, calls[failure.done]? = some call ∧ k.apply r d call = .error failure.error) ∨
      ∃ d, k.add r d = .error failure.error := by
  rw [build] at h
  cases hcalls : applyAll (k.apply r) (k.start seed) calls with
  | error failure' =>
    rw [hcalls] at h
    cases h
    exact .inl (applyAll_eq_error hcalls)
  | ok d =>
    rw [hcalls] at h
    change finishing calls (k.add r) d = .error failure at h
    rw [finishing] at h
    split at h
    · cases h
    · rename_i e hadd
      cases h
      exact .inr ⟨d, hadd⟩

theorem PartKind.blamesInput_of_build {k : PartKind} {seed : k.Seed} {calls : List k.Call}
    {failure : Failure} (h : k.build r seed calls = .error failure) :
    failure.error.BlamesInput (∃ call, calls[failure.done]? = some call ∧ k.GivesUrl call) := by
  obtain ⟨d, call, hcall, happly⟩ | ⟨d, hadd⟩ := build_eq_error h
  · exact (blamesInput_of_apply happly).mono fun hurl => ⟨call, hcall, hurl⟩
  · exact (OnlyRefuses.add r k d _ hadd).blamesInput

/-- No part but a data set has an address. -/
theorem PartKind.blamesInput_of_build_of_ne {k : PartKind} (hk : k ≠ .data) {seed : k.Seed}
    {calls : List k.Call} {failure : Failure} {urlGiven : Prop}
    (h : k.build r seed calls = .error failure) : failure.error.BlamesInput urlGiven := by
  refine (blamesInput_of_build h).mono ?_
  rintro ⟨call, -, hurl⟩
  cases k with
  | data => exact absurd rfl hk
  | scale | mark | axis => exact hurl.elim

theorem Step.blamesInput_of_build {config : Config} {step : Step} {failure : Failure}
    (h : Context.build { config, registry := r } step = .error failure) :
    failure.error.BlamesInput (step.GivesUrlAt failure.done) := by
  cases step with
  | data name calls =>
    have hbuild : PartKind.data.build r name calls = .error failure := map_eq_error.1 h
    refine (PartKind.blamesInput_of_build hbuild).mono ?_
    rintro ⟨call, hcall, hurl⟩
    cases call with
    | url text => exact ⟨text, hcall⟩
    | _ => exact hurl.elim
  | scale name type calls =>
    have hbuild : PartKind.scale.build r (name, type) calls = .error failure := map_eq_error.1 h
    exact PartKind.blamesInput_of_build_of_ne PartKind.noConfusion hbuild
  | mark type calls =>
    have hbuild : PartKind.mark.build r type calls = .error failure := map_eq_error.1 h
    exact PartKind.blamesInput_of_build_of_ne PartKind.noConfusion hbuild
  | axis type calls =>
    have hbuild : PartKind.axis.build r type calls = .error failure := map_eq_error.1 h
    exact PartKind.blamesInput_of_build_of_ne PartKind.noConfusion hbuild
  | transform kind values =>
    rw [Context.build] at h
    split at h
    · cases h
    · rename_i e hbuild
      cases h
      exact (OnlyRefuses.buildTransform r kind values e hbuild).blamesInput
  | visualization calls =>
    have hbuild : Visualization.build config calls = .error failure := map_eq_error.1 h
    rw [Visualization.build_eq] at hbuild
    obtain ⟨d, call, -, happly⟩ := applyAll_eq_error (map_eq_error.1 hbuild)
    exact (OnlyRefuses.applyVisualization d call _ happly).blamesInput

end

/-! ## Top theorem -/

end ChartSpec
