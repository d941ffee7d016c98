import ChartSpec.Proofs.Data.Calls
import ChartSpec.Proofs.Listed
import ChartSpec.Proofs.Mark.Calls
import ChartSpec.Proofs.Transform.Reading
import ChartSpec.Proofs.Transform.Reattach

/-!
# Checked transforms

A transform may be made of any record, and nothing has checked it then.  It can be listed on its
own, be part of a data set, or be part of a mark.  Whichever way it takes, it satisfies its rules
and reads registered data sets only, as long as the registry lasts (`Bench.transforms_checked`):

* a transform on its own is checked when it is made from its properties,
* a draft takes transforms only by attaching them (`PartKind.transforms_apply`), which checks them,
* attaching changes no text that a rule is about (`Transform.isChecked_of_attach`),
* a data set that is registered stays registered.
-/

namespace ChartSpec

/-- The transform satisfies its rules and reads known data sets only. -/
def Transform.IsChecked (known : KnownData) (t : Transform) : Prop :=
  t.check = .ok () ∧ t.validate known = .ok ()

namespace PartKind

/-- The transforms that a draft has taken so far. -/
def transforms : (k : PartKind) → k.Draft → List Transform
  | .data => Data.transforms
  | .scale => fun _ => []
  | .mark => Mark.transforms
  | .axis => fun _ => []

end PartKind

/-- The transforms that a part is or has. -/
def Part.transforms : Part → List Transform
  | .data d => d.transforms
  | .scale _ => []
  | .transform t => [t]
  | .mark m => m.transforms
  | .axis _ => []
  | .visualization _ => []

/-! ## Lemmas -/

variable {r : Registry}

namespace Transform

variable {known known' : KnownData} {fields next : FieldSet} {t t' : Transform}

/-- The rules are about texts that attaching leaves as they are. -/
theorem isChecked_of_attach (h : t.attach known fields = .ok (t', next)) : t'.IsChecked known := by
  obtain ⟨hcheck, hvalid, hresolve, -⟩ := attach_eq_ok.1 h
  refine ⟨?_, Record.validate_eq_ok.2 (known_of_attach h)⟩
  rw [resolve_eq_mapRoles hvalid] at hresolve
  obtain rfl := Except.ok.inj hresolve
  rw [← hcheck]
  exact check_mapRoles _ fun role hfixed => Role.reading_of_isFixed hfixed ..

theorem IsChecked.of_known (hk : ∀ n theirs, known n = some theirs → known' n = some theirs)
    (h : t.IsChecked known) : t.IsChecked known' :=
  ⟨h.1, validate_of_known hk h.2⟩

end Transform

/-! ### Drafts -/

theorem Data.mem_transforms_addTransform {d d' : Data} {raw t : Transform}
    (h : d.addTransform r raw = .ok d') (ht : t ∈ d'.transforms) :
    t ∈ d.transforms ∨ t.IsChecked r.known := by
  obtain ⟨t', fields, hattach, rfl⟩ := addTransform_eq_ok.1 h
  rcases List.mem_append.1 ht with ht | ht
  · exact .inl ht
  · rw [List.mem_singleton.1 ht]
    exact .inr (Transform.isChecked_of_attach hattach)

theorem Data.mem_transforms_apply {d d' : Data} {call : DataCall} {t : Transform}
    (h : d.apply r call = .ok d') (ht : t ∈ d'.transforms) :
    t ∈ d.transforms ∨ t.IsChecked r.known := by
  rcases apply_frame h with hsets | ⟨-, -, htransforms, -⟩
  · cases call with
    | source name =>
      obtain ⟨-, _, -, rfl⟩ := setSource_eq_ok.1 h
      exact .inl ht
    | transform raw => exact mem_transforms_addTransform h ht
    | transforms raws =>
      rw [apply] at h
      -- Of the transforms that one call takes, each joins those that the ones before it have left.
      refine foldlM_induction
        (P := fun e => ∀ t ∈ e.transforms, t ∈ d.transforms ∨ t.IsChecked r.known)
        h (fun _ => .inl) ?_ t ht
      intro raw _ e e' he hadd u hu
      rcases mem_transforms_addTransform hadd hu with hu | hu
      · exact he u hu
      · exact .inr hu
    | values | valuesText | url | format => cases hsets
  · exact .inl (htransforms ▸ ht)

theorem Mark.mem_transforms_apply {m m' : Mark} {call : MarkCall} {t : Transform}
    (h : m.apply r call = .ok m') (ht : t ∈ m'.transforms) :
    t ∈ m.transforms ∨ t.IsChecked r.known := by
  by_cases hsets : call.SetsContext
  · cases call with
    | fromData name =>
      obtain ⟨-, _, -, rfl⟩ := apply_fromData.1 h
      exact .inl ht
    | within group =>
      obtain ⟨-, -, rfl⟩ := apply_within.1 h
      exact .inl ht
    | fromTransform raw =>
      obtain ⟨t', fields, hattach, rfl⟩ := apply_fromTransform.1 h
      rcases List.mem_append.1 ht with ht | ht
      · exact .inl ht
      · rw [List.mem_singleton.1 ht]
        exact .inr (Transform.isChecked_of_attach hattach)
    | _ => cases hsets
  · rw [transforms, origin_of_apply h hsets] at ht
    exact .inl ht

namespace PartKind

variable {k : PartKind} {d d' : k.Draft}

theorem transforms_start (k : PartKind) (seed : k.Seed) : k.transforms (k.start seed) = [] := by
  cases k <;> rfl

/-- A draft has no transforms but those that it had before and those that a call has checked. -/
theorem transforms_apply {call : k.Call} (h : k.apply r d call = .ok d') {t : Transform}
    (ht : t ∈ k.transforms d') : t ∈ k.transforms d ∨ t.IsChecked r.known := by
  cases k with
  | data => exact Data.mem_transforms_apply h ht
  | mark => exact Mark.mem_transforms_apply h ht
  | scale | axis => cases ht

theorem transforms_finish {made : k.Made} (h : k.finish d = .ok made) :
    (k.part made).transforms = k.transforms d := by
  cases k with
  | data | mark =>
    rw [finish] at h
    split at h
    · cases h
    · cases h
      rfl
  | scale | axis => rfl

end PartKind

/-- What calls have checked stays checked while the registry grows. -/
theorem keptByParts_checked : KeptByParts
    (fun r part => ∀ t ∈ part.transforms, t.IsChecked r.known)
    (fun r k d => ∀ t ∈ k.transforms d, t.IsChecked r.known) where
  start r k seed t ht := by
    rw [PartKind.transforms_start] at ht
    cases ht
  call r k d d' c hd h t ht := by
    rcases PartKind.transforms_apply h ht with ht | hchecked
    · exact hd t ht
    · exact hchecked
  finish r k d made hd h t ht := hd t (PartKind.transforms_finish h ▸ ht)
  transform r kind properties t h u hu := by
    obtain rfl := List.mem_singleton.1 hu
    obtain ⟨hmade, hvalid⟩ := Step.makeTransform_eq_ok.1 h
    obtain ⟨_, -, -, -, hcheck⟩ := Transform.ofProperties_eq_ok.1 hmade
    exact ⟨hcheck, hvalid⟩
  growsPart _ _ _ hgrows hpart t ht := (hpart t ht).of_known hgrows.known
  growsDraft _ _ _ _ hgrows hd t ht := (hd t ht).of_known hgrows.known

/-! ## Top theorem -/

/-- After any run of moves from an empty bench, each transform that is listed, that a listed data
set has or that a listed mark has satisfies its rules, and reads data sets that are registered by
now.  The calls of the run may bring transforms that nothing has checked. -/
theorem Bench.transforms_checked (moves : List Move) :
    let r := (run {} moves).registry
    (∀ t ∈ r.transforms, t.check = .ok () ∧ t.validate r.known = .ok ()) ∧
    (∀ d ∈ r.data, ∀ t ∈ d.transforms, t.check = .ok () ∧ t.validate r.known = .ok ()) ∧
    (∀ m ∈ r.marks, ∀ origin ∈ m.origin, ∀ t ∈ origin.transforms,
      t.check = .ok () ∧ t.validate r.known = .ok ()) := by
  intro r
  have hchecked := keptByParts_checked.run moves
  refine ⟨?_, ?_, ?_⟩
  · intro t ht
    exact hchecked (.transform t) ht t (List.mem_singleton_self t)
  · intro d hd
    exact hchecked (.data d) hd
  · intro m hm origin horigin t ht
    refine hchecked (.mark m) hm t ?_
    show t ∈ (m.origin.getD {}).transforms
    rwa [Option.mem_def.1 horigin]

end ChartSpec
