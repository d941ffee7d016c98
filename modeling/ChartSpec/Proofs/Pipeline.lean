import ChartSpec.Proofs.Data.Context
import ChartSpec.Proofs.Mark.Context
import ChartSpec.Proofs.Stability

/-!
# Pipelines of transforms

A pipeline attaches transforms one behind the other, each in the context that the one before it
leaves (`Attached`).  Data sets and marks both run pipelines, and each threads the context by
itself: a data set starts from the structural fields and those of its source, a mark from the
fields of its data set as they are.

What one call does with one transform is all that is shown of either (`RunsPipeline`); what a run
of calls does follows for both at once.  So both attach the same transforms and fail at the same
one, and a data set in between changes nothing (`Bench.pipelines_agree`).
-/

namespace ChartSpec

/-- A name that a new data set can have. -/
def Registry.IsFree (r : Registry) (name : String) : Prop :=
  Text.isBlank name = false ∧ name ∉ r.dataNames

/-- What transforms become when they are attached one behind the other, and the context behind
the last one. -/
inductive Attached (known : KnownData) :
    FieldSet → List Transform → List Transform → FieldSet → Prop where
  | nil (fields : FieldSet) : Attached known fields [] [] fields
  | cons {fields next last : FieldSet} {t t' : Transform} {ts ts' : List Transform}
      (first : t.attach known fields = .ok (t', next)) (rest : Attached known next ts ts' last) :
      Attached known fields (t :: ts) (t' :: ts') last

/-- Calls that attach one transform each to a draft.  The draft is told by the transforms attached
so far and the context behind them, and an error of the transform comes out through `outside`. -/
structure RunsPipeline {δ κ : Type} (known : KnownData) (apply : δ → κ → Except Error δ)
    (call : Transform → κ) (draft : List Transform → FieldSet → δ) (outside : Error → Error) :
    Prop where
  attach : ∀ {ts fields t t' next}, t.attach known fields = .ok (t', next) →
    apply (draft ts fields) (call t) = .ok (draft (ts ++ [t']) next)
  refuse : ∀ {ts fields t error}, t.attach known fields = .error error →
    apply (draft ts fields) (call t) = .error (outside error)

/-- A data set that is nothing but a source and transforms. -/
def Data.derived (name source : String) (transforms : List Transform) (fields : FieldSet) : Data :=
  { name, source := some source, transforms, fields }

/-- A mark that is nothing but a data set and transforms. -/
def Mark.bound (type : MarkType) (data : String) (transforms : List Transform)
    (fields : FieldSet) : Mark :=
  { Mark.ofType type with origin := some { data := some data, transforms }, fields }

/-! ## Lemmas -/

/-! ### Pipelines -/

namespace Attached

variable {known known' : KnownData} {fields last : FieldSet} {ts ts' before after : List Transform}

theorem length_eq (h : Attached known fields ts ts' last) : ts'.length = ts.length := by
  induction h with
  | nil => rfl
  | cons _ _ ih => rw [List.length_cons, List.length_cons, ih]

theorem names_prefix (h : Attached known fields ts ts' last) : fields.names <+: last.names := by
  induction h with
  | nil => exact List.prefix_rfl
  | cons first _ ih =>
    obtain ⟨-, -, -, rfl⟩ := Transform.attach_eq_ok.1 first
    exact (FieldSet.prefix_extend _ _).trans ih

/-- A pipeline can be cut anywhere; its second part goes on in the context of the cut. -/
theorem split (h : Attached known fields (before ++ after) ts' last) :
    ∃ before' next after', ts' = before' ++ after' ∧ Attached known fields before before' next ∧
      Attached known next after after' last := by
  induction before generalizing fields ts' with
  | nil => exact ⟨[], fields, ts', rfl, .nil fields, h⟩
  | cons t before ih =>
    cases h with
    | cons first rest =>
      obtain ⟨before', next, after', rfl, hbefore, hafter⟩ := ih rest
      exact ⟨_, next, after', rfl, .cons first hbefore, hafter⟩

/-- Beside more data sets a pipeline runs as before. -/
theorem of_known (hk : ∀ n theirs, known n = some theirs → known' n = some theirs)
    (h : Attached known fields ts ts' last) : Attached known' fields ts ts' last := by
  induction h with
  | nil fields => exact .nil fields
  | cons first _ ih => exact .cons (Transform.attach_of_known hk first) ih

/-- A pipeline runs to its end, or there is a transform that cannot be attached behind those
before it. -/
theorem total_or_refused (known : KnownData) (fields : FieldSet) (ts : List Transform) :
    (∃ ts' last, Attached known fields ts ts' last) ∨
      ∃ before t after before' next error, ts = before ++ t :: after ∧
        Attached known fields before before' next ∧ t.attach known next = .error error := by
  induction ts generalizing fields with
  | nil => exact .inl ⟨[], fields, .nil fields⟩
  | cons t ts ih =>
    cases hfirst : t.attach known fields with
    | error error => exact .inr ⟨[], t, ts, [], fields, error, rfl, .nil fields, hfirst⟩
    | ok attached =>
      obtain ⟨t', next⟩ := attached
      rcases ih next with ⟨ts', last, hrest⟩ | ⟨before, u, after, before', stop, error, hts, hrest, hu⟩
      · exact .inl ⟨t' :: ts', last, .cons hfirst hrest⟩
      · exact .inr ⟨t :: before, u, after, t' :: before', stop, error, by rw [hts]; rfl,
          .cons hfirst hrest, hu⟩

end Attached

/-! ### Builders -/

namespace RunsPipeline

variable {δ κ : Type} {known : KnownData} {apply : δ → κ → Except Error δ} {call : Transform → κ}
  {draft : List Transform → FieldSet → δ} {outside : Error → Error} {fields next : FieldSet}
  {ts ts' : List Transform}

/-- Calls for transforms that can all be attached are made one after the other, and what comes
behind them goes on from there. -/
theorem applyFrom_append (h : RunsPipeline known apply call draft outside)
    (hts : Attached known fields ts ts' next) (done : Nat) (before : List Transform)
    (rest : List κ) :
    applyFrom apply done (draft before fields) (ts.map call ++ rest) =
      applyFrom apply (done + ts.length) (draft (before ++ ts') next) rest := by
  induction hts generalizing done before with
  | nil fields => rw [List.append_nil]; rfl
  | @cons fields mid last t t' ts ts' first _ ih =>
    have hcount : done + 1 + ts.length = done + (t :: ts).length := by
      rw [List.length_cons]
      omega
    have hdraft : before ++ [t'] ++ ts' = before ++ t' :: ts' := by simp
    rw [List.map_cons, List.cons_append, applyFrom_cons_of_ok (h.attach first),
      ih (done + 1) (before ++ [t']), hcount, hdraft]

theorem applyFrom_eq_ok (h : RunsPipeline known apply call draft outside)
    (hts : Attached known fields ts ts' next) (done : Nat) :
    applyFrom apply done (draft [] fields) (ts.map call) = .ok (draft ts' next) := by
  have hrun := h.applyFrom_append hts done [] []
  rwa [List.append_nil, List.nil_append] at hrun

/-- The first transform that cannot be attached ends the calls. -/
theorem applyFrom_eq_error (h : RunsPipeline known apply call draft outside)
    (hts : Attached known fields ts ts' next) {t : Transform} {error : Error}
    (ht : t.attach known next = .error error) (done : Nat) (after : List Transform) :
    applyFrom apply done (draft [] fields) ((ts ++ t :: after).map call) =
      .error { error := outside error, done := done + ts.length } := by
  rw [List.map_append, h.applyFrom_append hts, List.map_cons,
    applyFrom_cons_of_error (h.refuse ht)]

end RunsPipeline

namespace Data

variable {r : Registry} {s : Data} {name : String} {fields last : FieldSet} {t : Transform}
  {ts ts' before before' : List Transform} {error : Error}

theorem runsPipeline_addTransform (r : Registry) (name source : String) :
    RunsPipeline r.known (addTransform r) id (derived name source)
      (Error.through · (.attaching name)) where
  attach {ts fields t _ _} h := by
    have hfields : t.attach r.known (derived name source ts fields).fields = _ := h
    rw [addTransform, id, hfields]
    rfl
  refuse {ts fields t _} h := by
    have hfields : t.attach r.known (derived name source ts fields).fields = _ := h
    rw [addTransform, id, hfields]
    rfl

theorem runsPipeline_apply (r : Registry) (name source : String) :
    RunsPipeline r.known (apply r) .transform (derived name source)
      (Error.through · (.attaching name)) where
  attach h := (runsPipeline_addTransform r name source).attach h
  refuse h := (runsPipeline_addTransform r name source).refuse h

/-- Transforms that are added by one call run as a pipeline too, but fail as one call. -/
theorem apply_transforms (r : Registry) (d : Data) (ts : List Transform) :
    d.apply r (.transforms ts) =
      (applyFrom (addTransform r) 0 d (ts.map id)).mapError Failure.error := by
  rw [List.map_id, ← foldlM_eq_mapError]
  rfl

/-- A data set without transforms takes over the context of its source as it is, since that
begins with the structural fields. -/
theorem apply_source (hs : r.findData? s.name = some s)
    (hbegins : FieldSet.structural.names <+: s.fields.names) :
    apply r { name } (.source s.name) = .ok (derived name s.name [] s.fields) := by
  have hset : setSource r { name } s.name = .ok _ := setSource_eq_ok.2 ⟨rfl, s, hs, rfl⟩
  rw [FieldSet.union_of_prefix hbegins] at hset
  exact hset

theorem addData_derived (hfree : r.IsFree name) (source : String) :
    r.addData (derived name source ts fields) =
      .ok (r.put (.data (derived name source ts fields)), derived name source ts fields) :=
  Registry.addData_eq_ok.2 ⟨hfree.1, hfree.2, rfl, rfl⟩

end Data

namespace Mark

variable {r : Registry} {s : Data} {type : MarkType} {fields : FieldSet} {ts : List Transform}

theorem runsPipeline_apply (r : Registry) (type : MarkType) (data : String) :
    RunsPipeline r.known (apply r) .fromTransform (bound type data) id where
  attach {ts fields t _ _} h := by
    have hfields : t.attach r.known (bound type data ts fields).fields = _ := h
    rw [apply, addTransform, hfields]
    rfl
  refuse {ts fields t _} h := by
    have hfields : t.attach r.known (bound type data ts fields).fields = _ := h
    rw [apply, addTransform, hfields]
    rfl

theorem apply_fromData_ofType (hs : r.findData? s.name = some s) :
    apply r (ofType type) (.fromData s.name) = .ok (bound type s.name [] s.fields) :=
  apply_fromData.2 ⟨rfl, s, hs, rfl⟩

/-- Marks without a name are always accepted. -/
theorem addMark_bound (r : Registry) (type : MarkType) (data : String) :
    r.addMark (bound type data ts fields) =
      .ok (r.put (.mark (bound type data ts fields)), bound type data ts fields) :=
  Registry.addMark_eq_ok.2 ⟨by simp [bound, ofType], by simp [bound, ofType], rfl, rfl⟩

end Mark

/-! ### Parts -/

namespace Registry

variable {r : Registry} {s : Data} {name : String} {fields last : FieldSet} {t : Transform}
  {ts ts' before before' : List Transform} {error : Error}

theorem buildData_of_attached (hfree : r.IsFree name) (hs : r.findData? s.name = some s)
    (hbegins : FieldSet.structural.names <+: s.fields.names)
    (hts : Attached r.known s.fields ts ts' last) :
    r.buildData name (.source s.name :: ts.map .transform) =
      .ok (r.put (.data (.derived name s.name ts' last)), .derived name s.name ts' last) := by
  rw [buildData, applyAll, applyFrom_cons_of_ok (Data.apply_source hs hbegins),
    (Data.runsPipeline_apply r name s.name).applyFrom_eq_ok hts]
  exact bind_eq_ok.2 ⟨_, rfl, finishing_eq_ok.2 (Data.addData_derived hfree s.name)⟩

theorem buildData_atOnce_of_attached (hfree : r.IsFree name) (hs : r.findData? s.name = some s)
    (hbegins : FieldSet.structural.names <+: s.fields.names)
    (hts : Attached r.known s.fields ts ts' last) :
    r.buildData name [.source s.name, .transforms ts] =
      .ok (r.put (.data (.derived name s.name ts' last)), .derived name s.name ts' last) := by
  have hrun := (Data.runsPipeline_addTransform r name s.name).applyFrom_eq_ok hts 0
  have htransforms : (Data.derived name s.name [] s.fields).apply r (.transforms ts) =
      .ok (.derived name s.name ts' last) := by
    rw [Data.apply_transforms, hrun]
    rfl
  rw [buildData, applyAll, applyFrom_cons_of_ok (Data.apply_source hs hbegins),
    applyFrom_cons_of_ok htransforms, applyFrom_nil]
  exact bind_eq_ok.2 ⟨_, rfl, finishing_eq_ok.2 (Data.addData_derived hfree s.name)⟩

theorem buildMark_of_attached (hs : r.findData? s.name = some s)
    (hts : Attached r.known s.fields ts ts' last) (type : MarkType) :
    r.buildMark type (.fromData s.name :: ts.map .fromTransform) =
      .ok (r.put (.mark (.bound type s.name ts' last)), .bound type s.name ts' last) := by
  rw [buildMark, applyAll, applyFrom_cons_of_ok (Mark.apply_fromData_ofType hs),
    (Mark.runsPipeline_apply r type s.name).applyFrom_eq_ok hts]
  exact bind_eq_ok.2 ⟨_, rfl, finishing_eq_ok.2 (Mark.addMark_bound r type s.name)⟩

theorem buildData_of_refused (hs : r.findData? s.name = some s)
    (hbegins : FieldSet.structural.names <+: s.fields.names)
    (hbefore : Attached r.known s.fields before before' last)
    (ht : t.attach r.known last = .error error) (name : String) (after : List Transform) :
    r.buildData name (.source s.name :: (before ++ t :: after).map .transform) =
      .error { error := error.through (.attaching name), done := before.length + 1 } := by
  rw [buildData, applyAll, applyFrom_cons_of_ok (Data.apply_source hs hbegins),
    (Data.runsPipeline_apply r name s.name).applyFrom_eq_error hbefore ht, Nat.add_comm]
  rfl

theorem buildData_atOnce_of_refused (hs : r.findData? s.name = some s)
    (hbegins : FieldSet.structural.names <+: s.fields.names)
    (hbefore : Attached r.known s.fields before before' last)
    (ht : t.attach r.known last = .error error) (name : String) (after : List Transform) :
    r.buildData name [.source s.name, .transforms (before ++ t :: after)] =
      .error { error := error.through (.attaching name), done := 1 } := by
  have hrun := (Data.runsPipeline_addTransform r name s.name).applyFrom_eq_error hbefore ht 0 after
  have htransforms : (Data.derived name s.name [] s.fields).apply r
      (.transforms (before ++ t :: after)) = .error (error.through (.attaching name)) := by
    rw [Data.apply_transforms, hrun]
    rfl
  rw [buildData, applyAll, applyFrom_cons_of_ok (Data.apply_source hs hbegins),
    applyFrom_cons_of_error htransforms]
  rfl

theorem buildMark_of_refused (hs : r.findData? s.name = some s)
    (hbefore : Attached r.known s.fields before before' last)
    (ht : t.attach r.known last = .error error) (type : MarkType) (after : List Transform) :
    r.buildMark type (.fromData s.name :: (before ++ t :: after).map .fromTransform) =
      .error { error, done := before.length + 1 } := by
  rw [buildMark, applyAll, applyFrom_cons_of_ok (Mark.apply_fromData_ofType hs),
    (Mark.runsPipeline_apply r type s.name).applyFrom_eq_error hbefore ht, Nat.add_comm]
  rfl

/-- A pipeline can be cut by a data set in between, whose source its second part reads. -/
theorem buildData_of_split {a b : List Transform} {mid name : String}
    (hnodup : r.dataNames.Nodup) (hmid : r.IsFree mid) (hname : r.IsFree name) (hne : mid ≠ name)
    (hs : r.findData? s.name = some s) (hbegins : FieldSet.structural.names <+: s.fields.names)
    (hts : Attached r.known s.fields (a ++ b) ts' last) :
    ∃ r₁ d₁ r₂ d₂,
      r.buildData mid (.source s.name :: a.map .transform) = .ok (r₁, d₁) ∧
      r₁.buildData name (.source mid :: b.map .transform) = .ok (r₂, d₂) ∧
      d₁.transforms ++ d₂.transforms = ts' ∧ d₂.fields = last := by
  obtain ⟨a', next, b', rfl, ha, hb⟩ := hts.split
  -- The registry with the data set in between.
  let d : Data := .derived mid s.name a' next
  have hmade : r.buildData mid (.source s.name :: a.map .transform) = .ok (r.put (.data d), d) :=
    buildData_of_attached hmid hs hbegins ha
  have hgrows : r.Grows (r.put (.data d)) := { Grows.refl r with data := List.prefix_append _ _ }
  have hnames : (r.put (.data d)).dataNames = r.dataNames ++ [mid] :=
    List.map_append
  have hfind : (r.put (.data d)).findData? d.name = some d := by
    refine findData?_of_mem ?_ (List.mem_append_right _ (List.mem_singleton.2 rfl))
    rw [hnames]
    exact List.nodup_append.2 ⟨hnodup, List.nodup_singleton mid, by
      rintro n hn _ hmem rfl
      exact hmid.2 (List.mem_singleton.1 hmem ▸ hn)⟩
  have hfree : (r.put (.data d)).IsFree name := by
    refine ⟨hname.1, ?_⟩
    rw [hnames]
    intro hmem
    rcases List.mem_append.1 hmem with hmem | hmem
    · exact hname.2 hmem
    · exact hne (List.mem_singleton.1 hmem).symm
  exact ⟨_, _, _, _, hmade, buildData_of_attached hfree hfind (hbegins.trans ha.names_prefix)
    (hb.of_known hgrows.known), rfl, rfl⟩

end Registry

/-! ## Top theorem -/

/-- Beside any registered data set, a list of transforms runs as the pipeline of a new data set,
in one call or in several, and as that of a mark.  Either all of them succeed, attach the same
transforms and leave the same context, and so does a data set that takes over anywhere in between.
Or all of them fail at the same transform with the same error, to which a data set adds its
name. -/
theorem Bench.pipelines_agree (moves : List Move) {s : Data} {name : String}
    (hs : s ∈ (run {} moves).registry.data) (hfree : (run {} moves).registry.IsFree name)
    (ts : List Transform) (type : MarkType) :
    let r := (run {} moves).registry
    let data := r.buildData name (.source s.name :: ts.map .transform)
    let atOnce := r.buildData name [.source s.name, .transforms ts]
    let mark := r.buildMark type (.fromData s.name :: ts.map .fromTransform)
    (∃ d m, data = .ok (r.put (.data d), d) ∧ atOnce = .ok (r.put (.data d), d) ∧
      mark = .ok (r.put (.mark m), m) ∧ d.transforms.length = ts.length ∧
      m.origin = some { data := some s.name, transforms := d.transforms } ∧
      m.fields = d.fields ∧
      ∀ a b mid last, ts = a ++ b → r.IsFree mid → r.IsFree last → mid ≠ last →
        ∃ r₁ d₁ r₂ d₂,
          r.buildData mid (.source s.name :: a.map .transform) = .ok (r₁, d₁) ∧
          r₁.buildData last (.source mid :: b.map .transform) = .ok (r₂, d₂) ∧
          d₁.transforms ++ d₂.transforms = d.transforms ∧ d₂.fields = d.fields) ∨
    ∃ before t after error, ts = before ++ t :: after ∧
      data = .error { error := error.through (.attaching name), done := before.length + 1 } ∧
      atOnce = .error { error := error.through (.attaching name), done := 1 } ∧
      mark = .error { error, done := before.length + 1 } := by
  intro r data atOnce mark
  have hnodup : r.dataNames.Nodup := (sound_run moves).data.nodup
  have hfind : r.findData? s.name = some s := Registry.findData?_of_mem hnodup hs
  have hbegins : FieldSet.structural.names <+: s.fields.names := beginsStructural_run moves s hs
  rcases Attached.total_or_refused r.known s.fields ts with
    ⟨ts', last, hts⟩ | ⟨before, t, after, before', last, error, rfl, hbefore, ht⟩
  · refine .inl ⟨.derived name s.name ts' last, .bound type s.name ts' last,
      Registry.buildData_of_attached hfree hfind hbegins hts,
      Registry.buildData_atOnce_of_attached hfree hfind hbegins hts,
      Registry.buildMark_of_attached hfind hts type, hts.length_eq, rfl, rfl, ?_⟩
    rintro a b mid name' rfl hmid hname' hne
    exact Registry.buildData_of_split hnodup hmid hname' hne hfind hbegins hts
  · exact .inr ⟨before, t, after, error, rfl,
      Registry.buildData_of_refused hfind hbegins hbefore ht name after,
      Registry.buildData_atOnce_of_refused hfind hbegins hbefore ht name after,
      Registry.buildMark_of_refused hfind hbefore ht type after⟩

/-- Sorts by the count of statistics. -/
def Transform.countSort : Transform := ⟨.sort, .cons (.given (.one "-count")) .nil⟩

/-- A table without values. -/
def Bench.tableMoves : List Move := [.start .data "table", .finish .data 0]

/-- The statistics' field `count` is found by the sort behind them. -/
theorem Bench.pipelines_agree_countSort :
    let r := (run {} tableMoves).registry
    ∃ s ∈ r.data, r.IsFree "sorted" ∧ ∃ d m,
      r.buildData "sorted" [.source s.name, .transform .priceStats, .transform .countSort] =
        .ok (r.put (.data d), d) ∧
      r.buildMark .symbol [.fromData s.name, .fromTransform .priceStats,
        .fromTransform .countSort] = .ok (r.put (.mark m), m) ∧
      m.origin = some { data := some s.name, transforms := d.transforms } ∧
      m.fields = d.fields := by
  intro r
  have hs : ({ name := "table" } : Data) ∈ r.data := List.mem_singleton.2 rfl
  have hfree : r.IsFree "sorted" := ⟨by decide, by decide⟩
  refine ⟨_, hs, hfree, ?_⟩
  rcases pipelines_agree tableMoves hs hfree [.priceStats, .countSort] .symbol with
    ⟨d, m, hd, -, hm, -, horigin, hfields, -⟩ | ⟨_, _, _, _, -, hd, -⟩
  · exact ⟨d, m, hd, hm, horigin, hfields⟩
  · cases hd

end ChartSpec
