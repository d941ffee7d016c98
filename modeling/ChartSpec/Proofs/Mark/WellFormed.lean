import ChartSpec.Proofs.Mark.Context
import ChartSpec.Proofs.Mark.Script
import ChartSpec.Proofs.ScaleNames

/-!
# Well-formed marks

A mark is built by calls and by scripts that style a state, in whatever order and number.  None of
them leads to a mark that does not fit its type (`Mark.fits_act`):

    channels of a state      are those of the type
    scales, axes, marks      for groups only
    from                     has a data set or a transform
    ease                     is an easing function, with a mode or without

The name is looked at when the mark is built (`Mark.isWellFormed_of_actions`).
-/

namespace ChartSpec

/-- What is done with a mark: a call beside the registry of its moment, or a state is styled. -/
inductive MarkAction where
  | call (r : Registry) (call : MarkCall)
  | style (state : MarkState) (script : StylingScript)

/-- The calls that give contents, be it none. -/
def MarkCall.GivesContents : MarkCall → Prop
  | .scales _ => True
  | .axes _ => True
  | .marks _ => True
  | _ => False

def MarkAction.GivesContents : MarkAction → Prop
  | .call _ c => c.GivesContents
  | .style _ _ => False

namespace Body

variable {μ : Type}

def scales : Body μ → List Scale
  | .group scales _ _ => scales
  | .plain _ _ => []

def axes : Body μ → List Axis
  | .group _ axes _ => axes
  | .plain _ _ => []

def marks : Body μ → List μ
  | .group _ _ marks => marks
  | .plain _ _ => []

end Body

namespace Mark

def act (m : Mark) : MarkAction → Except Error Mark
  | .call r call => m.apply r call
  | .style state script => do
    let s ← script.make (some m.type) m.fields .empty
    return { m with states := m.states.set s state }

/-- The properties and the contents of a mark are for its type. -/
structure Fits (m : Mark) : Prop where
  channels : ∀ s ∈ m.states.stylings, s.IsFor (some m.type)
  contents : m.type ≠ .group → m.body.scales = [] ∧ m.body.axes = [] ∧ m.body.marks = []
  origin : ∀ o ∈ m.origin, o.data.isSome = true ∨ o.transforms ≠ []
  ease : ∀ e ∈ m.ease, ∃ f ∈ Easing.functions, e = f ∨ ∃ mode ∈ Easing.modes, e = f ++ "-" ++ mode

/-- What holds of each mark that has been built. -/
structure IsWellFormed (m : Mark) : Prop extends m.Fits where
  name : ∀ n ∈ m.name, Text.isBlank n = false

end Mark

/-! ## Lemmas -/

theorem Easing.isEasing_iff {s : String} :
    isEasing s = true ↔ ∃ f ∈ functions, s = f ∨ ∃ mode ∈ modes, s = f ++ "-" ++ mode := by
  rw [isEasing, List.contains_iff_mem, all, List.mem_flatMap]
  simp only [List.mem_cons, List.mem_map, eq_comm]

namespace Mark

variable {r : Registry} {m m' : Mark}

theorem contents_of_type (h : m.type ≠ .group) :
    m.body.scales = [] ∧ m.body.axes = [] ∧ m.body.marks = [] := by
  rw [type] at h
  cases hbody : m.body with
  | plain type hplain => exact ⟨rfl, rfl, rfl⟩
  | group scales axes marks =>
    rw [hbody] at h
    exact absurd rfl h

theorem type_of_body {scales : List Scale} {axes : List Axis} {marks : List Mark}
    (h : m.body = .group scales axes marks) : m.type = .group := by
  rw [type, h]
  rfl

theorem fits_ofType (type : MarkType) : (ofType type).Fits where
  channels := by simp [ofType, MarkStates.stylings]
  contents := contents_of_type
  origin := by simp [ofType]
  ease := by simp [ofType]

/-- Edits are one way to style a state. -/
theorem act_style_ofEdits {state : MarkState} {edits : List ChannelEdit} :
    m.act (.style state (.ofEdits r edits)) = m.act (.call r (.style state edits)) := by
  simp only [act, apply, StylingScript.make_ofEdits]
  rfl

theorem act_style_eq_ok {state : MarkState} {script : StylingScript} :
    m.act (.style state script) = .ok m' ↔
      ∃ s, script.make (some m.type) m.fields .empty = .ok s ∧
        m' = { m with states := m.states.set s state } := by
  simp only [act, bind_eq_ok, pure_eq_ok, eq_comm (b := m')]

theorem Fits.style {state : MarkState} {script : StylingScript} (hm : m.Fits)
    (h : m.act (.style state script) = .ok m') : m'.Fits := by
  obtain ⟨s, hs, rfl⟩ := act_style_eq_ok.1 h
  refine { hm with channels := ?_ }
  intro t ht
  rcases MarkStates.mem_stylings_set ht with rfl | ht
  · exact StylingScript.isFor_make Styling.isFor_empty hs
  · exact hm.channels t ht

/-- Other contents leave a group as it fits. -/
theorem Fits.setContents {body : Body Mark} (hm : m.Fits) (hgroup : m.type = .group)
    (hbody : body.type = .group) : ({ m with body } : Mark).Fits := by
  refine { hm with channels := ?_, contents := contents_of_type }
  intro s hs
  have hs : s.IsFor (some m.type) := hm.channels s hs
  rw [hgroup] at hs
  show s.IsFor (some body.type)
  rw [hbody]
  exact hs

theorem fits_apply {call : MarkCall} (hm : m.Fits) (h : m.apply r call = .ok m') : m'.Fits := by
  cases call with
  | name | description | key =>
    cases h
    exact { hm with }
  | fromData name =>
    obtain ⟨-, d, -, rfl⟩ := apply_fromData.1 h
    refine { hm with origin := ?_ }
    rintro _ ⟨⟩
    exact .inl rfl
  | within group =>
    obtain ⟨-, -, rfl⟩ := apply_within.1 h
    exact { hm with }
  | fromTransform t =>
    obtain ⟨t', fields, -, rfl⟩ := apply_fromTransform.1 h
    refine { hm with origin := ?_ }
    rintro _ ⟨⟩
    exact .inr (List.concat_ne_nil t' _)
  | style state edits =>
    have hact : m.act (.style state (.ofEdits r edits)) = .ok m' := act_style_ofEdits.trans h
    exact hm.style hact
  | delay value =>
    obtain ⟨_, -, rfl⟩ := apply_delay.1 h
    exact { hm with }
  | ease easing =>
    obtain ⟨heasing, rfl⟩ := apply_ease.1 h
    refine { hm with ease := ?_ }
    rintro _ ⟨⟩
    exact Easing.isEasing_iff.1 heasing
  | scales new =>
    obtain ⟨_, _, _, hbody, rfl⟩ := apply_scales.1 h
    exact hm.setContents (type_of_body hbody) rfl
  | axes new =>
    obtain ⟨_, _, _, hbody, rfl⟩ := apply_axes.1 h
    exact hm.setContents (type_of_body hbody) rfl
  | marks new =>
    obtain ⟨_, _, _, hbody, rfl⟩ := apply_marks.1 h
    exact hm.setContents (type_of_body hbody) rfl

theorem type_of_contents {call : MarkCall} (h : m.apply r call = .ok m')
    (hgives : call.GivesContents) : m.type = .group := by
  cases call with
  | scales new =>
    obtain ⟨_, _, _, hbody, -⟩ := apply_scales.1 h
    exact type_of_body hbody
  | axes new =>
    obtain ⟨_, _, _, hbody, -⟩ := apply_axes.1 h
    exact type_of_body hbody
  | marks new =>
    obtain ⟨_, _, _, hbody, -⟩ := apply_marks.1 h
    exact type_of_body hbody
  | _ => cases hgives

/-- Whatever is done with a mark, its type stays, and contents are given to groups only. -/
theorem act_frame {action : MarkAction} (h : m.act action = .ok m') :
    m'.type = m.type ∧ (action.GivesContents → m.type = .group) := by
  cases action with
  | call r call => exact ⟨(apply_frame h).1, type_of_contents h⟩
  | style state script =>
    obtain ⟨_, -, rfl⟩ := act_style_eq_ok.1 h
    exact ⟨rfl, False.elim⟩

theorem fits_act {action : MarkAction} (hm : m.Fits) (h : m.act action = .ok m') : m'.Fits := by
  cases action with
  | call r call => exact fits_apply hm h
  | style state script => exact hm.style h

/-! ### Runs -/

variable {actions : List MarkAction}

theorem fits_of_run (hm : m.Fits) (h : actions.foldlM act m = .ok m') :
    m'.Fits ∧ m'.type = m.type := by
  refine foldlM_induction (P := fun d => d.Fits ∧ d.type = m.type) h ⟨hm, rfl⟩ ?_
  rintro action - d d' ⟨hfits, htype⟩ hact
  exact ⟨fits_act hfits hact, (act_frame hact).1.trans htype⟩

/-- One action that gives contents makes a run a run on a group. -/
theorem type_of_givesContents (h : actions.foldlM act m = .ok m') :
    ∀ action ∈ actions, action.GivesContents → m.type = .group := by
  induction actions generalizing m with
  | nil => nofun
  | cons first rest ih =>
    simp only [List.foldlM_cons, bind_eq_ok] at h
    obtain ⟨d, hact, hrest⟩ := h
    obtain ⟨htype, hgroup⟩ := act_frame hact
    rw [List.forall_mem_cons]
    refine ⟨hgroup, fun action haction hgives => ?_⟩
    rw [← htype]
    exact ih hrest action haction hgives

end Mark

/-! ## Top theorem -/

/-- A mark is built by calls and by scripts that style a state, each beside the registry of its
moment.  It is well formed and of the type that it was started with, and contents have been given
to groups only.  While a state is styled, a channel is either set, being one of the type, or
refused, and then the styling stays as it is. -/
theorem Mark.isWellFormed_of_actions {type : MarkType} {actions : List MarkAction}
    {last grown : Registry} {draft m : Mark}
    (hrun : applyAll act (ofType type) actions = .ok draft)
    (hbuilt : last.addMark draft = .ok (grown, m)) :
    m.IsWellFormed ∧ m.type = type ∧
    (∀ action ∈ actions, action.GivesContents → type = .group) ∧
    ∀ r fields key v s,
      (∃ c w, key.resolve = .ok c ∧ c.validFor (some type) = true ∧ v.resolve r fields = .ok w ∧
        Styling.setInPlace r (some type) fields key v s = .ok () (s.set c w)) ∨
      ∃ error, Styling.setInPlace r (some type) fields key v s = .error error s := by
  obtain ⟨hname, -, rfl, rfl⟩ := Registry.addMark_eq_ok.1 hbuilt
  have hfold := applyAll_eq_ok.1 hrun
  obtain ⟨hfits, htype⟩ := fits_of_run (fits_ofType type) hfold
  have hgroup := type_of_givesContents hfold
  rw [type_ofType] at htype hgroup
  exact ⟨⟨hfits, hname⟩, htype, hgroup, fun _ _ _ _ _ => Styling.setInPlace_cases⟩

/-- Sets the fill if the size is refused. -/
def StylingScript.sizeOrFill : StylingScript :=
  .set .priced (.channel .size) (.constant (.int 9)) fun
    | none => .done
    | some _ => .set .priced (.channel .fill) (.constant (.str "red")) fun _ => .done

/-- Groups have no size. -/
theorem Mark.isWellFormed_group :
    ∃ draft grown, applyAll act (ofType .group) [
        .call .priced (.fromData "table"),
        .style .enter .sizeOrFill,
        .call .priced (.ease "cubic-in-out"),
        .call .priced (.scales []),
        .call .priced (.name "prices")] = .ok draft ∧
      Registry.priced.addMark draft = .ok (grown, draft) ∧ draft.IsWellFormed ∧
      (draft.states.enter.bind fun s => s.channels .fill).isSome = true ∧
      ∃ error, Styling.setInPlace .priced (some .group) draft.fields (.channel .size)
        (.constant (.int 9)) .empty = .error error .empty := by
  refine ⟨_, _, rfl, rfl, ?_⟩
  obtain ⟨hwell, -, -, hset⟩ := @isWellFormed_of_actions .group [
    .call .priced (.fromData "table"),
    .style .enter .sizeOrFill,
    .call .priced (.ease "cubic-in-out"),
    .call .priced (.scales []),
    .call .priced (.name "prices")] .priced _ _ _ rfl rfl
  refine ⟨hwell, rfl, ?_⟩
  rcases hset .priced _ (.channel .size) (.constant (.int 9)) .empty with ⟨c, w, hc, hvalid, -⟩ | h
  · cases hc
    cases hvalid
  · exact h

end ChartSpec
