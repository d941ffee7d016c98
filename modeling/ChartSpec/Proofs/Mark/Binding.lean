import ChartSpec.Proofs.Data.Context
import ChartSpec.Proofs.Data.Outputs
import ChartSpec.Proofs.Mark.Context
import ChartSpec.Proofs.Stability

/-!
# Bindings of marks

Two calls bind a mark, one to a data set and one to the group around it.  Either replaces the
context, but only the data set is written down, and a group does not cross it out:

    calls                            from      context
    group g, then data "table"       table     that of the table
    data "table", then group g       table     that of g

Transforms come after both and extend the context.  So the context of a finished mark is the one
that the last binding gives, extended by the mark's transforms (`Mark.isBound_of_run`), and it
belongs to the data set in the origin unless a group with another context was set behind it
(`Mark.fields_eq_bound_iff`).
-/

namespace ChartSpec

/-- What a call binds a mark to. -/
inductive Binding where
  | data (name : String)
  | group (g : Mark)

namespace Binding

def data? : Binding → Option String
  | data name => some name
  | group _ => none

def group? : Binding → Option Mark
  | data _ => none
  | group g => some g

/-- The context that the last binding gives beside a registry, the structural fields if there is
none. -/
inductive Gives (r : Registry) : Option Binding → FieldSet → Prop where
  | unbound : Gives r none .structural
  | data {name : String} {d : Data} (hd : r.findData? name = some d) :
      Gives r (some (.data name)) d.fields
  | group (g : Mark) : Gives r (some (.group g)) g.fields

end Binding

def MarkCall.binding? : MarkCall → Option Binding
  | .fromData table => some (.data table)
  | .within g => some (.group g)
  | _ => none

/-- The bindings that calls make, in their order. -/
def bindings (calls : List (Registry × MarkCall)) : List Binding :=
  calls.filterMap fun p => p.2.binding?

/-- The data set that calls have named last. -/
def lastData? (calls : List (Registry × MarkCall)) : Option String :=
  ((bindings calls).filterMap Binding.data?).getLast?

/-- The group that calls have put the mark in last. -/
def lastGroup? (calls : List (Registry × MarkCall)) : Option Mark :=
  ((bindings calls).filterMap Binding.group?).getLast?

namespace Mark

/-- The data set in a mark's origin. -/
def boundData? (m : Mark) : Option String := m.origin.bind Origin.data

/-- The fields that the mark's own transforms add, with repetitions. -/
def outputs (m : Mark) : List String := m.transforms.flatMap Transform.outputs

/-- What a mark is like that has been bound time after time. -/
structure IsBound (r : Registry) (bs : List Binding) (m : Mark) : Prop where
  data : m.boundData? = (bs.filterMap Binding.data?).getLast?
  fields : ∃ base, Binding.Gives r bs.getLast? base ∧ m.fields = base.extend m.outputs
  registered : ∀ name, .data name ∈ bs → ∃ d, r.findData? name = some d

end Mark

/-! ## Lemmas -/

theorem MarkCall.binding?_of_not_setsContext {call : MarkCall} (h : ¬ call.SetsContext) :
    call.binding? = none := by
  cases call with
  | fromData | within => exact absurd trivial h
  | _ => rfl

namespace Mark

variable {r last : Registry} {m m' : Mark} {bs : List Binding}

theorem outputs_of_no_transforms (h : m.transforms = []) : m.outputs = [] := by
  rw [outputs, h, List.flatMap_nil]

/-! ### Steps -/

/-- A new mark has not been bound. -/
theorem isBound_ofType (r : Registry) (type : MarkType) : (ofType type).IsBound r [] where
  data := rfl
  fields := ⟨_, .unbound, rfl⟩
  registered := by simp

theorem isBound_fromData {name : String} (hgrows : r.Grows last) (hm : m.IsBound last bs)
    (h : m.apply r (.fromData name) = .ok m') : m'.IsBound last (bs ++ [.data name]) := by
  obtain ⟨hfree, d, hd, rfl⟩ := apply_fromData.1 h
  have hnone : m.transforms = [] := expectNoTransforms_eq_ok.1 hfree
  have hlast : last.findData? name = some d := hgrows.findData? hd
  constructor
  · rw [List.filterMap_append]
    exact List.getLast?_concat.symm
  · refine ⟨d.fields, ?_, ?_⟩
    · rw [List.getLast?_concat]
      exact .data hlast
    · show d.fields = d.fields.extend m.outputs
      rw [outputs_of_no_transforms hnone]
      rfl
  · intro other hother
    rcases List.mem_append.1 hother with hother | hother
    · exact hm.registered other hother
    · cases List.mem_singleton.1 hother
      exact ⟨d, hlast⟩

/-- The group gives the context, and the origin is as it was. -/
theorem isBound_within {g : Mark} (hm : m.IsBound last bs)
    (h : m.apply r (.within g) = .ok m') : m'.IsBound last (bs ++ [.group g]) := by
  obtain ⟨hfree, -, rfl⟩ := apply_within.1 h
  have hnone : m.transforms = [] := expectNoTransforms_eq_ok.1 hfree
  constructor
  · rw [List.filterMap_append]
    exact hm.data.trans (congrArg List.getLast? (List.append_nil _).symm)
  · refine ⟨g.fields, ?_, ?_⟩
    · rw [List.getLast?_concat]
      exact .group g
    · show g.fields = g.fields.extend m.outputs
      rw [outputs_of_no_transforms hnone]
      rfl
  · intro other hother
    rcases List.mem_append.1 hother with hother | hother
    · exact hm.registered other hother
    · cases List.mem_singleton.1 hother

/-- A transform extends what the last binding has given. -/
theorem isBound_fromTransform {t : Transform} (hm : m.IsBound last bs)
    (h : m.apply r (.fromTransform t) = .ok m') : m'.IsBound last bs := by
  obtain ⟨t', fields, hattach, rfl⟩ := apply_fromTransform.1 h
  obtain ⟨-, -, -, rfl⟩ := Transform.attach_eq_ok.1 hattach
  obtain ⟨base, hbase, hfields⟩ := hm.fields
  refine ⟨?_, ⟨base, hbase, ?_⟩, hm.registered⟩
  · rw [← hm.data, boundData?, boundData?]
    cases m.origin <;> rfl
  · show m.fields.extend t'.outputs =
      base.extend ((m.transforms ++ [t']).flatMap Transform.outputs)
    rw [hfields, FieldSet.extend_extend, List.flatMap_append, List.flatMap_singleton]
    rfl

/-- Other calls bind nothing. -/
theorem isBound_of_not_setsContext {call : MarkCall} (hm : m.IsBound last bs)
    (h : m.apply r call = .ok m') (hkeeps : ¬ call.SetsContext) : m'.IsBound last bs := by
  have horigin : m'.origin = m.origin := origin_of_apply h hkeeps
  have hfields : m'.fields = m.fields := (apply_frame h).2.1.resolve_left hkeeps
  constructor
  · rw [boundData?, horigin]
    exact hm.data
  · rw [hfields, outputs, transforms, horigin]
    exact hm.fields
  · exact hm.registered

theorem isBound_apply {call : MarkCall} (hgrows : r.Grows last) (hm : m.IsBound last bs)
    (h : m.apply r call = .ok m') : m'.IsBound last (bs ++ call.binding?.toList) := by
  by_cases hsets : call.SetsContext
  · cases call with
    | fromData name => exact isBound_fromData hgrows hm h
    | within g => exact isBound_within hm h
    | fromTransform t =>
      show m'.IsBound last (bs ++ [])
      rw [List.append_nil]
      exact isBound_fromTransform hm h
    | _ => cases hsets
  · rw [MarkCall.binding?_of_not_setsContext hsets, Option.toList_none, List.append_nil]
    exact isBound_of_not_setsContext hm h hsets

/-! ### Runs -/

/-- Calls, each beside a registry that has grown to the last one, bind a mark as they say. -/
theorem isBound_of_run {calls : List (Registry × MarkCall)} (hgrows : ∀ p ∈ calls, p.1.Grows last)
    (hm : m.IsBound last bs) (h : calls.foldlM applyAt m = .ok m') :
    m'.IsBound last (bs ++ bindings calls) := by
  induction calls generalizing m bs with
  | nil =>
    cases h
    rw [bindings, List.filterMap_nil, List.append_nil]
    exact hm
  | cons p rest ih =>
    simp only [List.foldlM_cons, bind_eq_ok] at h
    obtain ⟨d, happly, hrest⟩ := h
    have hd := isBound_apply (hgrows p List.mem_cons_self) hm happly
    have hsplit : bindings (p :: rest) = p.2.binding?.toList ++ bindings rest := by
      rw [bindings, List.filterMap_cons]
      cases p.2.binding? <;> rfl
    rw [hsplit, ← List.append_assoc]
    exact ih (fun q hq => hgrows q (List.mem_cons_of_mem p hq)) hd hrest

end Mark

/-! ### Last bindings -/

namespace Binding

variable {r : Registry} {bs : List Binding} {base : FieldSet}

/-- Without data sets, the last group gives the context. -/
theorem eq_of_gives_of_no_data (h : Gives r bs.getLast? base)
    (hnone : (bs.filterMap data?).getLast? = none) :
    base = (((bs.filterMap group?).getLast?).map Mark.fields).getD .structural := by
  rcases List.eq_nil_or_concat bs with rfl | ⟨before, b, rfl⟩
  · cases h
    rfl
  · rw [List.concat_eq_append, List.getLast?_concat] at h
    cases h with
    | data hd => simp [data?] at hnone
    | group g => simp [group?]

/-- With data sets, the last of them gives the context unless a group has come after it. -/
theorem gives_cases {name : String} (h : Gives r bs.getLast? base)
    (hname : (bs.filterMap data?).getLast? = some name) :
    (∃ d, r.findData? name = some d ∧ bs.getLast? = some (.data name) ∧ base = d.fields) ∨
      ∃ g, bs.getLast? = some (.group g) ∧ base = g.fields := by
  rcases List.eq_nil_or_concat bs with rfl | ⟨before, b, rfl⟩
  · cases hname
  · rw [List.concat_eq_append, List.getLast?_concat] at h ⊢
    cases h with
    | @data other d hd =>
      have hother : other = name := by simpa [data?] using hname
      exact .inl ⟨d, hother ▸ hd, by rw [hother], rfl⟩
    | group g => exact .inr ⟨g, rfl, rfl⟩

end Binding

/-! ## Top theorem -/

/-- A mark is built by calls, each beside a registry that has grown to the last one.  Its origin
names the data set that was named last.  If there is none, the context is that of the last group,
and the structural fields without a group, extended by the mark's transforms.  If there is one, it
is registered, and the context is its context extended likewise, exactly if the last binding is
not a group from which these transforms lead to another context. -/
theorem Mark.fields_eq_bound_iff {type : MarkType} {calls : List (Registry × MarkCall)}
    {last grown : Registry} {draft m : Mark} (hgrows : ∀ p ∈ calls, p.1.Grows last)
    (hrun : applyAll applyAt (ofType type) calls = .ok draft)
    (hbuilt : last.addMark draft = .ok (grown, m)) :
    m.boundData? = lastData? calls ∧
    (m.boundData? = none →
      m.fields = (((lastGroup? calls).map Mark.fields).getD .structural).extend m.outputs) ∧
    ∀ name ∈ m.boundData?, ∃ d, last.findData? name = some d ∧
      (m.fields = d.fields.extend m.outputs ↔
        ∀ g, (bindings calls).getLast? = some (.group g) →
          g.fields.extend m.outputs = d.fields.extend m.outputs) := by
  obtain ⟨-, -, -, rfl⟩ := Registry.addMark_eq_ok.1 hbuilt
  have hbound := isBound_of_run hgrows (isBound_ofType last type) (applyAll_eq_ok.1 hrun)
  rw [List.nil_append] at hbound
  obtain ⟨base, hgives, hfields⟩ := hbound.fields
  refine ⟨hbound.data, ?_, ?_⟩
  · intro hnone
    rw [hfields, Binding.eq_of_gives_of_no_data hgives (hbound.data ▸ hnone)]
    rfl
  · intro name hname
    have hlast : ((bindings calls).filterMap Binding.data?).getLast? = some name :=
      hbound.data ▸ hname
    rcases Binding.gives_cases hgives hlast with ⟨d, hd, hdata, rfl⟩ | ⟨g, hgroup, rfl⟩
    · refine ⟨d, hd, iff_of_true hfields ?_⟩
      intro g hgroup
      cases hdata.symm.trans hgroup
    · obtain ⟨b, hb, hbname⟩ := List.mem_filterMap.1 (List.mem_of_getLast? hlast)
      cases b with
      | group => cases hbname
      | data other =>
        cases hbname
        obtain ⟨d, hd⟩ := hbound.registered name hb
        refine ⟨d, hd, ?_⟩
        rw [hfields, hgroup]
        constructor
        · rintro hsame _ ⟨⟩
          exact hsame
        · intro hsame
          exact hsame g rfl

/-- A mark in a group that is then bound to a table, with a transform of its own. -/
theorem Mark.fields_eq_bound_rank :
    ∃ draft grown d, applyAll applyAt (ofType .symbol) [
        (Registry.priced, .within (ofType .group)),
        (Registry.priced, .fromData "table"),
        (Registry.priced, .fromTransform (Transform.priceFormula "rank"))] = .ok draft ∧
      Registry.priced.addMark draft = .ok (grown, draft) ∧
      draft.boundData? = some "table" ∧ Registry.priced.findData? "table" = some d ∧
      draft.outputs = ["rank"] ∧ draft.fields = d.fields.extend ["rank"] := by
  refine ⟨_, _, _, rfl, rfl, rfl, rfl, rfl, ?_⟩
  obtain ⟨-, -, hdata⟩ := @fields_eq_bound_iff .symbol [
    (Registry.priced, .within (ofType .group)), (Registry.priced, .fromData "table"),
    (Registry.priced, .fromTransform (Transform.priceFormula "rank"))] Registry.priced _ _ _
    (by simp [Registry.Grows.refl]) rfl rfl
  obtain ⟨d, hd, hiff⟩ := hdata "table" rfl
  cases hd
  refine hiff.2 ?_
  intro g hg
  cases (show some (Binding.data "table") = some (.group g) from hg)

/-- The other way round, the mark is bound to the table and has nothing of the table's fields. -/
theorem Mark.fields_behind_group :
    ∃ grown m d, Registry.priced.buildMark .symbol [
        .fromData "table", .within (ofType .group)] = .ok (grown, m) ∧
      m.boundData? = some "table" ∧ Registry.priced.findData? "table" = some d ∧
      m.outputs = [] ∧ m.fields = .structural ∧ "count" ∈ d.fields.names ∧
      m.fields ≠ d.fields.extend m.outputs := by
  refine ⟨_, _, _, rfl, rfl, rfl, rfl, rfl, ?_, ?_⟩
  · decide
  · decide

end ChartSpec
