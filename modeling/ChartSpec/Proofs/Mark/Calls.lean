import ChartSpec.Proofs.Registry

/-!
# Calls on marks

What each call on a mark does when it is not refused.  Calls that set a text cannot be refused,
and say themselves what they do.
-/

namespace ChartSpec

/-- The calls that set the fields which a mark's properties can use. -/
def MarkCall.SetsContext : MarkCall → Prop
  | .fromData _ => True
  | .within _ => True
  | .fromTransform _ => True
  | _ => False

/-- The calls that set properties of a mark which can hold fields. -/
def MarkCall.SetsProperty : MarkCall → Prop
  | .style _ _ => True
  | .key _ => True
  | .delay _ => True
  | _ => False

namespace Mark

/-- The transforms of a mark's own records. -/
def transforms (m : Mark) : List Transform := (m.origin.getD {}).transforms

/-! ## Lemmas -/

variable {r : Registry} {m m' : Mark}

theorem expectNoTransforms_eq_ok {what : String} {u : Unit} :
    m.expectNoTransforms what = .ok u ↔ m.transforms = [] := by
  rw [expectNoTransforms, transforms]
  match m.origin with
  | none => simp
  | some ⟨_, []⟩ => simp
  | some ⟨_, _ :: _⟩ => simp

theorem apply_fromData {name : String} :
    m.apply r (.fromData name) = .ok m' ↔ m.expectNoTransforms "data" = .ok () ∧
      ∃ d, r.findData? name = some d ∧
        m' = { m with
          fields := d.fields
          origin := some { m.origin.getD {} with data := some name } } := by
  simp only [apply, setData, bind_eq_ok, inPlace_eq_ok, pure_eq_ok, Registry.expectData_eq_ok]
  constructor
  · rintro ⟨_, hfree, d, hd, rfl⟩
    exact ⟨hfree, d, hd, rfl⟩
  · rintro ⟨hfree, d, hd, rfl⟩
    exact ⟨(), hfree, d, hd, rfl⟩

theorem apply_within {group : Mark} :
    m.apply r (.within group) = .ok m' ↔ m.expectNoTransforms "enclosing group" = .ok () ∧
      group.isGroup = true ∧ m' = { m with fields := group.fields } := by
  simp only [apply, setGroup, bind_eq_ok]
  constructor
  · rintro ⟨_, hfree, h⟩
    split at h
    · rename_i hgroup
      cases h
      exact ⟨hfree, hgroup, rfl⟩
    · cases h
  · rintro ⟨hfree, hgroup, rfl⟩
    exact ⟨(), hfree, if_pos hgroup⟩

theorem apply_fromTransform {t : Transform} :
    m.apply r (.fromTransform t) = .ok m' ↔
      ∃ t' fields, t.attach r.known m.fields = .ok (t', fields) ∧
        m' = { m with
          fields
          origin := some { m.origin.getD {} with
            transforms := (m.origin.getD {}).transforms ++ [t'] } } := by
  simp only [apply, addTransform, bind_eq_ok, pure_eq_ok, Prod.exists]
  constructor
  · rintro ⟨t', fields, hattach, rfl⟩
    exact ⟨t', fields, hattach, rfl⟩
  · rintro ⟨t', fields, hattach, rfl⟩
    exact ⟨t', fields, hattach, rfl⟩

theorem apply_style {state : MarkState} {edits : List ChannelEdit} :
    m.apply r (.style state edits) = .ok m' ↔
      ∃ s, Styling.ofEdits r (some m.type) m.fields edits = .ok s ∧
        m' = { m with states := m.states.set s state } := by
  simp only [apply, bind_eq_ok, pure_eq_ok]
  constructor
  · rintro ⟨s, hs, rfl⟩
    exact ⟨s, hs, rfl⟩
  · rintro ⟨s, hs, rfl⟩
    exact ⟨s, hs, rfl⟩

theorem apply_delay {value : ValueSpec} :
    m.apply r (.delay value) = .ok m' ↔
      ∃ v, value.resolve r m.fields = .ok v ∧ m' = { m with delay := some v } := by
  simp only [apply, bind_eq_ok, pure_eq_ok]
  constructor
  · rintro ⟨v, hv, rfl⟩
    exact ⟨v, hv, rfl⟩
  · rintro ⟨v, hv, rfl⟩
    exact ⟨v, hv, rfl⟩

theorem apply_ease {easing : String} :
    m.apply r (.ease easing) = .ok m' ↔
      Easing.isEasing easing = true ∧ m' = { m with ease := some easing } := by
  rw [apply]
  split
  · rename_i heasing
    simp [heasing, eq_comm]
  · rename_i heasing
    simp [heasing]

/-- What only groups allow is done on their contents. -/
theorem groupOnly_eq_ok {f : List Scale → List Axis → List Mark → Mark} {g : MarkType → Error} :
    (match m.body with
      | .group scales axes marks => Except.ok (f scales axes marks)
      | .plain type _ => .error (g type)) = .ok m' ↔
    ∃ scales axes marks, m.body = .group scales axes marks ∧ m' = f scales axes marks := by
  cases m.body with
  | plain type hplain => simp
  | group scales axes marks =>
    constructor
    · rintro ⟨⟩
      exact ⟨scales, axes, marks, rfl, rfl⟩
    · rintro ⟨_, _, _, ⟨⟩, rfl⟩
      rfl

theorem apply_scales {new : List Scale} :
    m.apply r (.scales new) = .ok m' ↔ ∃ scales axes marks, m.body = .group scales axes marks ∧
      m' = { m with body := .group (scales ++ new) axes marks } := by
  exact groupOnly_eq_ok

theorem apply_axes {new : List Axis} :
    m.apply r (.axes new) = .ok m' ↔ ∃ scales axes marks, m.body = .group scales axes marks ∧
      m' = { m with body := .group scales (axes ++ new) marks } := by
  exact groupOnly_eq_ok

theorem apply_marks {new : List Mark} :
    m.apply r (.marks new) = .ok m' ↔ ∃ scales axes marks, m.body = .group scales axes marks ∧
      m' = { m with body := .group scales axes (marks ++ new) } := by
  exact groupOnly_eq_ok

theorem type_ofType (type : MarkType) : (ofType type).type = type := by
  unfold Mark.type ofType Body.ofType
  split
  · rename_i hgroup
    exact hgroup.symm
  · rfl

/-- A call keeps the type of a mark, and the context and the properties unless it is one that sets
them. -/
theorem apply_frame {call : MarkCall} (h : m.apply r call = .ok m') :
    m'.type = m.type ∧ (call.SetsContext ∨ m'.fields = m.fields) ∧
      (call.SetsProperty ∨ m'.states = m.states ∧ m'.key = m.key ∧ m'.delay = m.delay) := by
  cases call with
  | name | description =>
    cases h
    exact ⟨rfl, .inr rfl, .inr ⟨rfl, rfl, rfl⟩⟩
  | fromData name =>
    obtain ⟨-, d, -, rfl⟩ := apply_fromData.1 h
    exact ⟨rfl, .inl trivial, .inr ⟨rfl, rfl, rfl⟩⟩
  | within group =>
    obtain ⟨-, -, rfl⟩ := apply_within.1 h
    exact ⟨rfl, .inl trivial, .inr ⟨rfl, rfl, rfl⟩⟩
  | fromTransform t =>
    obtain ⟨_, _, -, rfl⟩ := apply_fromTransform.1 h
    exact ⟨rfl, .inl trivial, .inr ⟨rfl, rfl, rfl⟩⟩
  | style state edits =>
    obtain ⟨_, -, rfl⟩ := apply_style.1 h
    exact ⟨rfl, .inr rfl, .inl trivial⟩
  | key field =>
    cases h
    exact ⟨rfl, .inr rfl, .inl trivial⟩
  | delay value =>
    obtain ⟨_, -, rfl⟩ := apply_delay.1 h
    exact ⟨rfl, .inr rfl, .inl trivial⟩
  | ease easing =>
    obtain ⟨-, rfl⟩ := apply_ease.1 h
    exact ⟨rfl, .inr rfl, .inr ⟨rfl, rfl, rfl⟩⟩
  | scales new =>
    obtain ⟨_, _, _, hbody, rfl⟩ := apply_scales.1 h
    exact ⟨by rw [type, type, hbody]; rfl, .inr rfl, .inr ⟨rfl, rfl, rfl⟩⟩
  | axes new =>
    obtain ⟨_, _, _, hbody, rfl⟩ := apply_axes.1 h
    exact ⟨by rw [type, type, hbody]; rfl, .inr rfl, .inr ⟨rfl, rfl, rfl⟩⟩
  | marks new =>
    obtain ⟨_, _, _, hbody, rfl⟩ := apply_marks.1 h
    exact ⟨by rw [type, type, hbody]; rfl, .inr rfl, .inr ⟨rfl, rfl, rfl⟩⟩

/-- What a mark is bound to and its transforms are left alone by other calls. -/
theorem origin_of_apply {call : MarkCall} (h : m.apply r call = .ok m')
    (hkeeps : ¬ call.SetsContext) : m'.origin = m.origin := by
  cases call with
  | fromData | within | fromTransform => exact absurd trivial hkeeps
  | name | description | key =>
    cases h
    rfl
  | style state edits =>
    obtain ⟨_, -, rfl⟩ := apply_style.1 h
    rfl
  | delay value =>
    obtain ⟨_, -, rfl⟩ := apply_delay.1 h
    rfl
  | ease easing =>
    obtain ⟨-, rfl⟩ := apply_ease.1 h
    rfl
  | scales new =>
    obtain ⟨_, _, _, -, rfl⟩ := apply_scales.1 h
    rfl
  | axes new =>
    obtain ⟨_, _, _, -, rfl⟩ := apply_axes.1 h
    rfl
  | marks new =>
    obtain ⟨_, _, _, -, rfl⟩ := apply_marks.1 h
    rfl

end Mark

end ChartSpec
