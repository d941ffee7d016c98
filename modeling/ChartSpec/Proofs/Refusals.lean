import ChartSpec.Proofs.Arguments
import ChartSpec.Proofs.Bench

/-!
# Refusals

A computation that fails only by refusing an input is composed of such computations.  The lemmas
follow the composition, so that each function is looked at once.  Two branches look different: a
value that has been counted must be found, or the library is to blame, and it is found; the error
of a decoder is worded by the decoder, and its wording is a refusal.

All that is asked for while a chart is built fails in this way only, the address of a data set
apart.
-/

namespace ChartSpec

/-- An error that is a refusal. -/
def Error.IsRefusal (e : Error) : Prop := ∃ r, e.cause = .refused r

/-- If there is no result, there is a refusal. -/
def OnlyRefuses {α : Type} (x : Except Error α) : Prop := ∀ e, x = .error e → e.IsRefusal

/-! ## Lemmas -/

namespace OnlyRefuses

section

variable {α β : Type} {x y : Except Error α} {f : α → Except Error β}

@[simp] theorem ok (a : α) : OnlyRefuses (.ok a) := nofun

@[simp] theorem pure (a : α) : OnlyRefuses (Pure.pure a) := nofun

@[simp] theorem refused (r : Refusal) : OnlyRefuses (.error (.refused r) : Except Error α) := by
  rintro _ ⟨⟩
  exact ⟨r, rfl⟩

@[simp] theorem demand (r : Refusal) (a : Option α) : OnlyRefuses (ChartSpec.demand r a) := by
  cases a with
  | none => exact refused r
  | some a => exact ok a

@[simp] theorem bind (hx : OnlyRefuses x) (hf : ∀ a, OnlyRefuses (f a)) :
    OnlyRefuses (x >>= f) := by
  cases x with
  | error e =>
    rintro _ ⟨⟩
    exact hx e rfl
  | ok a => exact hf a

@[simp] theorem map_iff {g : α → β} : OnlyRefuses (x.map g) ↔ OnlyRefuses x :=
  forall_congr' fun _ => imp_congr_left map_eq_error

@[simp] theorem functorMap_iff {g : α → β} : OnlyRefuses (g <$> x) ↔ OnlyRefuses x := map_iff

@[simp] theorem inPlace_iff {p : Place} : OnlyRefuses (inPlace p x) ↔ OnlyRefuses x := by
  cases x with
  | ok a => simp [inPlace]
  | error e =>
    constructor
    · rintro h _ ⟨⟩
      exact h (e.through p) rfl
    · rintro h _ ⟨⟩
      exact h e rfl

@[simp] theorem ite {c : Prop} [Decidable c] (hx : OnlyRefuses x) (hy : OnlyRefuses y) :
    OnlyRefuses (if c then x else y) := by
  split
  · exact hx
  · exact hy

@[simp] theorem foldlM {g : β → α → Except Error β} {xs : List α} {b : β}
    (hg : ∀ b a, OnlyRefuses (g b a)) : OnlyRefuses (xs.foldlM g b) := by
  induction xs generalizing b with
  | nil => exact pure b
  | cons a xs ih =>
    rw [List.foldlM_cons]
    exact bind (hg b a) fun _ => ih

@[simp] theorem mapM {xs : List α} (hf : ∀ a, OnlyRefuses (f a)) : OnlyRefuses (xs.mapM f) := by
  induction xs with
  | nil => exact pure []
  | cons a xs ih =>
    rw [List.mapM_cons]
    exact bind (hf a) fun _ => bind ih fun _ => pure _

@[simp] theorem forM {g : α → Except Error Unit} {xs : List α} (hg : ∀ a, OnlyRefuses (g a)) :
    OnlyRefuses (xs.forM g) := by
  induction xs with
  | nil => exact pure ()
  | cons a xs ih =>
    rw [List.forM_eq_forM] at ih ⊢
    rw [List.forM_cons]
    exact bind (hg a) fun _ => ih

@[simp] theorem optionForM {g : α → Except Error Unit} {o : Option α}
    (hg : ∀ a, OnlyRefuses (g a)) : OnlyRefuses (o.forM g) := by
  cases o with
  | none => exact pure ()
  | some a => exact hg a

@[simp] theorem single (name : String) (args : List α) :
    OnlyRefuses (Arguments.single name args) := by
  obtain ⟨a, rfl, -⟩ | ⟨-, h⟩ := Arguments.single_cases name args
  · exact ok a
  · exact h ▸ refused _

end

/-! ### Transforms -/

section

variable (known : KnownData)

@[simp] theorem knownDemand (name : String) : OnlyRefuses (known.demand name) := demand _ _

@[simp] theorem validate (t : Transform) : OnlyRefuses (t.validate known) := by
  have hcheck : ∀ property name, OnlyRefuses (known.check property name) := by
    simp [KnownData.check]
  have hrecord : ∀ {ps : List Property} (record : Record ps),
      OnlyRefuses (record.validate known) := by
    intro ps record
    induction record with
    | nil => exact ok ()
    | cons slot rest ih => exact bind (ite (forM (hcheck _)) (ok ())) fun _ => ih
  exact hrecord t.record

@[simp] theorem resolve (fields : FieldSet) (t : Transform) :
    OnlyRefuses (t.resolve known fields) := by
  have hslot : ∀ {p : Property} (other : String → Option String) (slot : Slot p),
      OnlyRefuses (slot.resolve known fields other) := by
    intro p other slot
    unfold Slot.resolve
    split
    case h_5 =>
      split
      · exact bind (knownDemand known _) fun _ => pure _
      · exact ok _
    all_goals exact ok _
  have hrecord : ∀ {ps : List Property} (other : String → Option String) (record : Record ps),
      OnlyRefuses (record.resolve known fields other) := by
    intro ps other record
    induction record with
    | nil => exact ok _
    | cons slot rest ih => exact bind (hslot other slot) fun _ => bind ih fun _ => pure _
  exact bind (hrecord _ t.record) fun _ => pure _

end

@[simp] theorem checkRotation (property : String) (v : Json) :
    OnlyRefuses (Rule.checkRotation property v) := by
  unfold Rule.checkRotation
  split
  · exact ok ()
  · refine bind (single property _) fun entry => ite (refused _) ?_
    split
    · exact ite (ok ()) (refused _)
    · exact refused _
  · exact refused _

@[simp] theorem checkRule (rule : Rule) (property : String) (s : Shape) (v : s.Value) :
    OnlyRefuses (rule.check property s v) := by
  cases rule with
  | free => exact ok ()
  | datum => exact forM fun expression => ite (ok ()) (refused _)
  | count expected =>
    unfold Rule.check
    dsimp only
    split
    · exact ite (ok ()) (refused _)
    · exact ok ()
  | unitInterval =>
    unfold Rule.check
    dsimp only
    split
    · exact ite (ok ()) (refused _)
    · exact ok ()
  | rotation =>
    unfold Rule.check
    dsimp only
    split
    · exact checkRotation property _
    · exact ok ()

@[simp] theorem check (t : Transform) : OnlyRefuses t.check := by
  have hrecord : ∀ {ps : List Property} (record : Record ps), OnlyRefuses record.check := by
    intro ps record
    induction record with
    | nil => exact ok ()
    | cons slot rest ih =>
      refine bind ?_ fun _ => ih
      cases slot with
      | given v => exact checkRule _ _ _ v
      | absent => exact ok ()
  refine bind (hrecord t.record) fun _ => ?_
  unfold Transform.checkCopy
  split
  · exact ite (ok ()) (refused _)
  · exact ok ()

@[simp] theorem ofProperties (kind : TransformKind) (properties : Json) :
    OnlyRefuses (Transform.ofProperties kind properties) := by
  have hmake : ∀ entries, OnlyRefuses (Transform.ofProperties.make kind entries) := by
    intro entries
    refine ite (refused _) (inPlace_iff.2 ?_)
    split
    · exact refused _
    · exact bind (check _) fun _ => pure _
  unfold Transform.ofProperties
  split
  · exact hmake []
  · exact hmake _
  · exact refused _

@[simp] theorem attach (known : KnownData) (fields : FieldSet) (t : Transform) :
    OnlyRefuses (t.attach known fields) := by
  simp [Transform.attach]

@[simp] theorem buildTransform (r : Registry) (kind : TransformKind) (properties : Json) :
    OnlyRefuses (r.buildTransform kind properties) := by
  simp [Registry.buildTransform]

/-! ### Names -/

section

variable (r : Registry)

@[simp] theorem expectData (name : String) : OnlyRefuses (r.expectData name) := demand _ _

@[simp] theorem expectScale (name : String) : OnlyRefuses (r.expectScale name) := demand _ _

@[simp] theorem checkUnique (kind : EntityKind) (name : String) :
    OnlyRefuses (r.checkUnique kind name) := ite (ok ()) (refused _)

theorem add (k : PartKind) (d : k.Draft) : OnlyRefuses (k.add r d) := by
  cases k with
  | data => exact ite (refused _) (bind (bind (checkUnique r _ _) fun _ => pure _) fun _ => pure _)
  | scale => exact ite (refused _) (bind (bind (checkUnique r _ _) fun _ => pure _) fun _ => pure _)
  | mark =>
    exact ite (refused _)
      (bind (bind (optionForM (checkUnique r _)) fun _ => pure _) fun _ => pure _)
  | axis =>
    refine bind ?_ fun _ => pure _
    unfold AxisDraft.finish
    split
    · exact ok _
    · exact refused _

/-! ### Calls -/

theorem applyScale (s : Scale) (call : ScaleCall) : OnlyRefuses (s.apply r call) := by
  have href : ∀ token, OnlyRefuses (r.resolveDataRef token) := by
    simp [Registry.resolveDataRef, Registry.resolveReference]
  have hdomain : ∀ input, OnlyRefuses (r.resolveDomain input) := by
    intro input
    cases input <;> simp [Registry.resolveDomain, href]
  have hrange : ∀ input, OnlyRefuses (r.resolveRange input) := by
    intro input
    unfold Registry.resolveRange
    split
    · split <;> simp [href]
    · exact hdomain _
  have hfields : ∀ tokens, OnlyRefuses (r.resolveFields tokens) := by
    intro tokens
    refine bind (mapM href) fun refs => ?_
    split
    · exact pure _
    · exact refused _
  have hset : ∀ (s : Scale) input, OnlyRefuses (s.setDomain r input) := by
    simp [Scale.setDomain, hdomain]
  have hbounds : ∀ (s : Scale) low high, OnlyRefuses (s.setBounds r low high) := by
    intro s low high
    cases low <;> cases high <;> simp [Scale.setBounds, hdomain]
  have hrequire : ∀ property allowed, OnlyRefuses (s.require property allowed) := by
    simp [Scale.require]
  cases call with
  | nice n => cases n <;> simp [Scale.apply, hrequire]
  | _ => simp [Scale.apply, hset, hbounds, hfields, hrange, hdomain, hrequire]

section

variable (fields : FieldSet)

@[simp] theorem resolveScale (s : ScaleReference) : OnlyRefuses (s.resolve r) := by
  cases s <;> simp [ScaleReference.resolve]

@[simp] theorem resolveValue (v : ValueSpec) : OnlyRefuses (v.resolve r fields) := by
  have hnumeric : ∀ property value, OnlyRefuses (numeric property value) := by
    intro property value
    cases value <;> simp [numeric]
  unfold ValueSpec.resolve
  split <;> simp [hnumeric]

@[simp] theorem setKey (type : Option MarkType) (s : Styling) (key : ChannelKey) (v : ValueSpec) :
    OnlyRefuses (s.setKey r type fields key v) := by
  refine bind ?_ fun c => ?_
  · cases key <;> simp [ChannelKey.resolve]
  · simp [Styling.setChannel]

@[simp] theorem ofEdits (type : Option MarkType) (edits : List ChannelEdit) :
    OnlyRefuses (Styling.ofEdits r type fields edits) := by
  refine foldlM fun s e => ?_
  unfold Styling.edit
  split
  · exact ok s
  · exact setKey r fields type s e.key e.value

end

theorem applyMark (m : Mark) (call : MarkCall) : OnlyRefuses (m.apply r call) := by
  have hearly : ∀ what, OnlyRefuses (m.expectNoTransforms what) := by
    intro what
    unfold Mark.expectNoTransforms
    split <;> simp
  cases call with
  | fromData name => simp [Mark.apply, Mark.setData, hearly]
  | within group => simp [Mark.apply, Mark.setGroup, hearly]
  | fromTransform t => simp [Mark.apply, Mark.addTransform]
  | scales | axes | marks =>
    simp only [Mark.apply]
    split <;> simp
  | _ => simp [Mark.apply]

theorem applyAxis (a : AxisDraft) (call : AxisCall) : OnlyRefuses (a.apply r call) := by
  cases call <;> simp [AxisDraft.apply, AxisDraft.setting, Arguments.atLeastOne]

end

theorem applyVisualization (d : VisualizationDraft) (call : VisualizationCall) :
    OnlyRefuses (d.apply call) := by
  have hviewport : ∀ v, OnlyRefuses (Viewport.ofJson v) := by
    have hside : ∀ name v, OnlyRefuses (Viewport.side name v) := by
      intro name v
      unfold Viewport.side
      split <;> simp
    intro v
    unfold Viewport.ofJson
    split <;> simp [hside]
  have hpadding : ∀ v, OnlyRefuses (Padding.ofJson v) := by
    have hside : ∀ v name, OnlyRefuses (Padding.side v name) := fun _ _ => demand _ _
    intro v
    unfold Padding.ofJson
    split
    · exact map_iff.2 (demand _ _)
    · exact refused _
    · exact bind (hside _ _) fun _ => bind (hside _ _) fun _ => bind (hside _ _) fun _ =>
        bind (hside _ _) fun _ => pure _
    · exact refused _
  cases call <;> simp [VisualizationDraft.apply, hviewport, hpadding]

end OnlyRefuses

end ChartSpec
