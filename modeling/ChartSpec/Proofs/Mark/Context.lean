import ChartSpec.Data.Build
import ChartSpec.Proofs.Field.Reference
import ChartSpec.Proofs.Mark.Calls
import ChartSpec.Proofs.Mark.Styling

/-!
# The context of a mark's properties

A property resolves its fields in the context that the mark has when the property is set.  The
data set, the group or a transform may be set later and change the context, but what has been
resolved stays:

    key "count", then data "table"      holds data.count
    data "table", then key "count"      holds count, if `count` is a field of the table

A stored field is the one that the context of the finished mark gives exactly if both contexts
have the looked-up name at the same place (`Mark.field?_eq_iff`).
-/

namespace ChartSpec

/-- A place of a mark that can hold a field. -/
inductive FieldSlot where
  | channel (state : MarkState) (c : Channel)
  | key
  | delay

/-- The field that a mark holds. -/
def Mark.field? (m : Mark) : FieldSlot → Option String
  | .channel state c => (m.states.get state).bind fun s => (s.channels c).bind ValueRef.field
  | .key => m.key
  | .delay => m.delay.bind ValueRef.field

/-- The calls that write a slot anew, be it with no field.  Styling a state writes all channels of
the state. -/
def MarkCall.Writes : MarkCall → FieldSlot → Prop
  | .style state _, .channel state' _ => state = state'
  | .key _, .key => True
  | .delay _, .delay => True
  | _, _ => False

/-- The value that an edit gives to a channel, if it sets this channel and is not refused. -/
def ChannelEdit.value? (r : Registry) (type : Option MarkType) (c : Channel) (e : ChannelEdit) :
    Option ValueSpec :=
  match e.key.resolve, e.value.resolve r .empty with
  | .ok c', .ok _ => if c' = c ∧ c.validFor type = true then some e.value else none
  | _, _ => none

/-- The value that edits give to a channel, the last one. -/
def lastValue? (r : Registry) (type : Option MarkType) (c : Channel) :
    List ChannelEdit → Option ValueSpec
  | [] => none
  | e :: rest => (lastValue? r type c rest).or (e.value? r type c)

/-- The field token that a call gives for a slot. -/
def MarkCall.token? (r : Registry) (type : MarkType) : MarkCall → FieldSlot → Option String
  | .style _ edits, .channel _ c => (lastValue? r (some type) c edits).bind ValueSpec.field
  | .key field, .key => some field
  | .delay value, .delay => value.field
  | _, _ => none

/-- A call, with the registry of its moment. -/
def Mark.applyAt (m : Mark) (p : Registry × MarkCall) : Except Error Mark := m.apply p.1 p.2

/-! ## Lemmas -/

variable {r : Registry}

/-! ### Values and edits -/

namespace ValueSpec

variable {v : ValueSpec} {w : ValueRef} {fields fields' : FieldSet}

theorem field_of_resolve (h : v.resolve r fields = .ok w) :
    w.field = v.field.map (resolveField fields) := by
  obtain ⟨_, _, _, -, -, -, rfl⟩ := resolve_eq_ok.1 h
  rfl

/-- Whether a value resolves does not depend on the context. -/
theorem exists_resolve (h : v.resolve r fields = .ok w) (fields' : FieldSet) :
    ∃ w', v.resolve r fields' = .ok w' := by
  obtain ⟨scale, mult, offset, hscale, hmult, hoffset, -⟩ := resolve_eq_ok.1 h
  exact ⟨_, resolve_eq_ok.2 ⟨scale, mult, offset, hscale, hmult, hoffset, rfl⟩⟩

end ValueSpec

theorem ChannelEdit.value?_eq_some {type : Option MarkType} {c : Channel} {e : ChannelEdit}
    {v : ValueSpec} :
    e.value? r type c = some v ↔ e.key.resolve = .ok c ∧ c.validFor type = true ∧
      (∃ w, e.value.resolve r .empty = .ok w) ∧ v = e.value := by
  rw [value?]
  split
  · rename_i c' w hkey hvalue
    simp only [hkey, hvalue, Except.ok.injEq, exists_eq', true_and, Option.ite_none_right_eq_some,
      Option.some.injEq, and_assoc]
    rw [eq_comm (a := v)]
  · rename_i hnone
    simp only [reduceCtorEq, false_iff]
    rintro ⟨hkey, -, ⟨w, hvalue⟩, -⟩
    exact hnone c w hkey hvalue

namespace Styling

variable {s s' : Styling} {type : Option MarkType} {fields : FieldSet}

/-- An edit stores the field of the value that it gives to a channel, and leaves other channels. -/
theorem field_edit {e : ChannelEdit} (h : s.edit r type fields e = .ok s') (c : Channel) :
    (s'.channels c).bind ValueRef.field =
      match e.value? r type c with
      | some v => v.field.map (resolveField fields)
      | none => (s.channels c).bind ValueRef.field := by
  rcases edit_eq_ok.1 h with hset | ⟨⟨error, hrefused⟩, -, rfl⟩
  · obtain ⟨c', w, hkey, hvalid, hw, rfl⟩ := setKey_eq_ok.1 hset
    by_cases hc : c = c'
    · subst hc
      have hvalue : e.value? r type c = some e.value :=
        ChannelEdit.value?_eq_some.2 ⟨hkey, hvalid, ValueSpec.exists_resolve hw _, rfl⟩
      simp [hvalue, set, ValueSpec.field_of_resolve hw]
    · have hother : e.value? r type c = none := by
        rw [Option.eq_none_iff_forall_ne_some]
        intro v hv
        obtain ⟨hkey', -⟩ := ChannelEdit.value?_eq_some.1 hv
        exact hc (Except.ok.inj (hkey'.symm.trans hkey))
      simp [hother, set, hc]
  · have hnone : e.value? r type c = none := by
      rw [Option.eq_none_iff_forall_ne_some]
      intro v hv
      obtain ⟨hkey, hvalid, ⟨w, hw⟩, -⟩ := ChannelEdit.value?_eq_some.1 hv
      obtain ⟨w', hw'⟩ := ValueSpec.exists_resolve hw fields
      have hset := setKey_eq_ok (s := s').2 ⟨c, w', hkey, hvalid, hw', rfl⟩
      cases hrefused.symm.trans hset
    simp [hnone]

theorem field_foldlM_edit {edits : List ChannelEdit}
    (h : edits.foldlM (edit r type fields) s = .ok s') (c : Channel) :
    (s'.channels c).bind ValueRef.field =
      match lastValue? r type c edits with
      | some v => v.field.map (resolveField fields)
      | none => (s.channels c).bind ValueRef.field := by
  induction edits generalizing s with
  | nil =>
    simp only [List.foldlM_nil, pure_eq_ok] at h
    rw [← h]
    rfl
  | cons e rest ih =>
    simp only [List.foldlM_cons, bind_eq_ok] at h
    obtain ⟨s₁, hedit, hrest⟩ := h
    rw [ih hrest, lastValue?]
    cases lastValue? r type c rest with
    | some v => rfl
    | none =>
      rw [Option.none_or]
      exact field_edit hedit c

theorem field_ofEdits {edits : List ChannelEdit} (h : ofEdits r type fields edits = .ok s)
    (c : Channel) : (s.channels c).bind ValueRef.field =
      ((lastValue? r type c edits).bind ValueSpec.field).map (resolveField fields) := by
  rw [field_foldlM_edit h c]
  cases lastValue? r type c edits <;> rfl

end Styling

/-! ### Calls -/

namespace MarkStates

theorem get_set (states : MarkStates) (s : Styling) (state : MarkState) :
    (states.set s state).get state = some s := by
  cases state <;> rfl

theorem get_set_of_ne (states : MarkStates) (s : Styling) {state state' : MarkState}
    (h : state ≠ state') : (states.set s state).get state' = states.get state' := by
  cases state <;> cases state' <;> first | rfl | exact absurd rfl h

end MarkStates

/-- No call does both. -/
theorem MarkCall.not_setsContext {call : MarkCall} {slot : FieldSlot} (h : call.Writes slot) :
    ¬ call.SetsContext := by
  cases call <;> cases slot <;> simp_all [Writes, SetsContext]

namespace Mark

variable {m m' : Mark} {call : MarkCall} {slot : FieldSlot}

theorem field?_of_writes (h : m.apply r call = .ok m') (hwrites : call.Writes slot) :
    m'.field? slot = (call.token? r m.type slot).map (resolveField m.fields) := by
  cases call with
  | style state edits =>
    obtain ⟨s, hs, rfl⟩ := apply_style.1 h
    cases slot with
    | channel state' c =>
      cases hwrites
      rw [field?, MarkStates.get_set, Option.bind_some]
      exact Styling.field_ofEdits hs c
    | key => cases hwrites
    | delay => cases hwrites
  | key field =>
    cases h
    cases slot with
    | key => rfl
    | channel => cases hwrites
    | delay => cases hwrites
  | delay value =>
    obtain ⟨v, hv, rfl⟩ := apply_delay.1 h
    cases slot with
    | delay => exact ValueSpec.field_of_resolve hv
    | channel => cases hwrites
    | key => cases hwrites
  | _ => cases slot <;> cases hwrites

theorem field?_of_not_writes (h : m.apply r call = .ok m') (hkeeps : ¬ call.Writes slot) :
    m'.field? slot = m.field? slot := by
  obtain ⟨-, -, hsets | ⟨hstates, hkey, hdelay⟩⟩ := apply_frame h
  · cases call with
    | style state edits =>
      obtain ⟨s, -, rfl⟩ := apply_style.1 h
      cases slot with
      | channel state' c =>
        rw [field?, MarkStates.get_set_of_ne _ _ hkeeps]
        rfl
      | key => rfl
      | delay => rfl
    | key field =>
      cases h
      cases slot with
      | key => exact absurd trivial hkeeps
      | channel => rfl
      | delay => rfl
    | delay value =>
      obtain ⟨v, -, rfl⟩ := apply_delay.1 h
      cases slot with
      | delay => exact absurd trivial hkeeps
      | channel => rfl
      | key => rfl
    | _ => cases hsets
  · cases slot with
    | channel state c => rw [field?, field?, hstates]
    | key => exact hkey
    | delay => rw [field?, field?, hdelay]

/-! ### Runs -/

variable {calls before after : List (Registry × MarkCall)}

theorem type_of_run (h : calls.foldlM applyAt m = .ok m') : m'.type = m.type :=
  foldlM_induction (P := fun d => d.type = m.type) h rfl
    fun _ _ _ _ htype happly => (apply_frame happly).1.trans htype

theorem fields_of_run (h : calls.foldlM applyAt m = .ok m')
    (hkeeps : ∀ p ∈ calls, ¬ p.2.SetsContext) : m'.fields = m.fields := by
  refine foldlM_induction (P := fun d => d.fields = m.fields) h rfl ?_
  intro p hp d d' hd happly
  rcases (apply_frame happly).2.1 with hsets | hsame
  · exact absurd hsets (hkeeps p hp)
  · exact hsame.trans hd

theorem field?_of_run (h : calls.foldlM applyAt m = .ok m')
    (hkeeps : ∀ p ∈ calls, ¬ p.2.Writes slot) : m'.field? slot = m.field? slot :=
  foldlM_induction (P := fun d => d.field? slot = m.field? slot) h rfl
    fun p hp _ _ hd happly => (field?_of_not_writes happly (hkeeps p hp)).trans hd

/-- The last call that writes a slot decides what it holds, in the context of its moment. -/
theorem field?_of_last (h : (before ++ (r, call) :: after).foldlM applyAt m = .ok m')
    (hwrites : call.Writes slot) (hlast : ∀ p ∈ after, ¬ p.2.Writes slot) :
    ∃ d, before.foldlM applyAt m = .ok d ∧
      m'.field? slot = (call.token? r m.type slot).map (resolveField d.fields) ∧
      ((∀ p ∈ after, ¬ p.2.SetsContext) → m'.fields = d.fields) := by
  simp only [List.foldlM_append, List.foldlM_cons, bind_eq_ok] at h
  obtain ⟨d, hbefore, d', happly, hafter⟩ := h
  have hfield : d'.field? slot = (call.token? r m.type slot).map (resolveField d.fields) := by
    rw [field?_of_writes happly hwrites, type_of_run hbefore]
  refine ⟨d, hbefore, (field?_of_run hafter hlast).trans hfield, ?_⟩
  intro hkeeps
  have hsame : d'.fields = d.fields := by
    rcases (apply_frame happly).2.1 with hsets | hsame
    · exact absurd hsets (MarkCall.not_setsContext hwrites)
    · exact hsame
  exact (fields_of_run hafter hkeeps).trans hsame

end Mark

theorem map_resolveField_eq_iff (fields fields' : FieldSet) (token : Option String) :
    token.map (resolveField fields) = token.map (resolveField fields') ↔
      ∀ t ∈ token, ∀ name ∈ lookedUp? t,
        FieldReference.place fields name = FieldReference.place fields' name := by
  cases token with
  | none => simp
  | some t => simp [resolveField_eq_iff fields fields' t]

/-- Building a mark in one go is a run of calls beside one registry. -/
theorem Registry.buildMark_eq_ok {r' : Registry} {type : MarkType} {calls : List MarkCall}
    {m : Mark} : r.buildMark type calls = .ok (r', m) ↔
      applyAll Mark.applyAt (Mark.ofType type) (calls.map fun call => (r, call)) = .ok m ∧
        r.addMark m = .ok (r', m) := by
  simp only [buildMark, bind_eq_ok, finishing_eq_ok, applyAll_eq_ok, List.foldlM_map]
  constructor
  · rintro ⟨draft, hrun, hadd⟩
    obtain ⟨-, -, -, rfl⟩ := addMark_eq_ok.1 hadd
    exact ⟨hrun, hadd⟩
  · rintro ⟨hrun, hadd⟩
    exact ⟨m, hrun, hadd⟩

/-! ## Top theorem -/

/-- A mark is built by calls, each beside the registry of its moment, and the last one that writes
a slot gives a token.  The slot holds what the token means in the context of that moment.  This is
what it means in the context of the finished mark exactly if the name that the token has looked
up has the same place in both, as it has if no later call sets the context. -/
theorem Mark.field?_eq_iff {type : MarkType} {before after : List (Registry × MarkCall)}
    {r last grown : Registry} {call : MarkCall} {slot : FieldSlot} {draft m : Mark}
    (hrun : applyAll applyAt (ofType type) (before ++ (r, call) :: after) = .ok draft)
    (hbuilt : last.addMark draft = .ok (grown, m))
    (hwrites : call.Writes slot) (hlast : ∀ p ∈ after, ¬ p.2.Writes slot) :
    ∃ d, applyAll applyAt (ofType type) before = .ok d ∧
      m.field? slot = (call.token? r type slot).map (resolveField d.fields) ∧
      (m.field? slot = (call.token? r type slot).map (resolveField m.fields) ↔
        ∀ token ∈ call.token? r type slot, ∀ name ∈ lookedUp? token,
          FieldReference.place d.fields name = FieldReference.place m.fields name) ∧
      ((∀ p ∈ after, ¬ p.2.SetsContext) →
        m.field? slot = (call.token? r type slot).map (resolveField m.fields)) := by
  obtain ⟨-, -, -, rfl⟩ := Registry.addMark_eq_ok.1 hbuilt
  obtain ⟨d, hbefore, hfield, hcontext⟩ := field?_of_last (applyAll_eq_ok.1 hrun) hwrites hlast
  rw [type_ofType] at hfield
  refine ⟨d, applyAll_eq_ok.2 hbefore, hfield, ?_, ?_⟩
  · rw [hfield]
    exact map_resolveField_eq_iff d.fields m.fields _
  · intro hkeeps
    rw [hfield, hcontext hkeeps]

/-- Statistics over the prices in the records. -/
def Transform.priceStats : Transform :=
  ⟨.stats, .cons (.given "price") (.cons (.absent rfl) (.cons (.absent rfl) .nil))⟩

/-- A registry with a data set that has the fields of these statistics. -/
def Registry.priced : Registry :=
  after {} (buildData {} "table" [
    .values (.arr [.obj [("price", .int 1)]]),
    .transform Transform.priceStats])

theorem Mark.key_behind_data :
    ∃ draft grown, applyAll applyAt (ofType .symbol) [
        (Registry.priced, .fromData "table"),
        (Registry.priced, .key "count"),
        (Registry.priced, .name "points")] = .ok draft ∧
      Registry.priced.addMark draft = .ok (grown, draft) ∧
      draft.field? .key = some (resolveField draft.fields "count") := by
  refine ⟨_, _, rfl, rfl, ?_⟩
  obtain ⟨_, -, -, -, hkeeps⟩ := @field?_eq_iff .symbol [(Registry.priced, .fromData "table")]
    [(Registry.priced, .name "points")] Registry.priced Registry.priced _ (.key "count") .key _ _
    rfl rfl trivial (by simp [MarkCall.Writes])
  exact hkeeps (by simp [MarkCall.SetsContext])

/-- The other way round, the key is the user's field and not that of the statistics. -/
theorem Mark.key_before_data :
    ∃ grown m, Registry.priced.buildMark .symbol [.key "count", .fromData "table"] =
        .ok (grown, m) ∧
      m.key = some "data.count" ∧ resolveField m.fields "count" = "count" := by
  refine ⟨_, _, rfl, ?_, ?_⟩
  · decide
  · decide

end ChartSpec
