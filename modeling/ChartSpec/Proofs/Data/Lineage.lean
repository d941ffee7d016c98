import ChartSpec.Proofs.Data.Context
import ChartSpec.Proofs.Data.Outputs
import ChartSpec.Proofs.Listed
import ChartSpec.Proofs.Stability

/-!
# Lineages of data sets

The records of a data set come through its source, the source of that, and so on up to a data set
without a source.  The context of the data set is kept call by call: setting the source replaces
it, attaching a transform extends it.  It comes to what the whole lineage says: the structural
fields, then the fields that the transforms of all data sets from the first one down have added,
each at its first place (`Bench.fields_eq_lineage`).

    name       source    transforms                           context
    table                stats                                data index count min max ...
    ratios     table     formula "count", formula "ratio"     data index count min max ... ratio
-/

namespace ChartSpec

/-- The fields that the data set's own transforms add, with repetitions. -/
def Data.outputs (d : Data) : List String := d.transforms.flatMap Transform.outputs

/-- A data set at the end of registered ones, each of which is the source of the next, the first
one having no source. -/
inductive Registry.Lineage (r : Registry) : Data → List Data → Prop where
  | root {d : Data} (hd : d ∈ r.data) (hsource : d.source = none) : Lineage r d [d]
  | derived {d s : Data} {above : List Data} (hd : d ∈ r.data) (hsource : d.source = some s.name)
      (hs : Lineage r s above) : Lineage r d (above ++ [d])

/-- The context that a data set starts from, by its source. -/
inductive Registry.Starts (r : Registry) : Option String → FieldSet → Prop where
  | own : Starts r none .structural
  | taken {s : Data} {name : String} (hs : r.findData? name = some s) :
      Starts r (some name) (FieldSet.structural.union s.fields)

/-- The context of a data set is the one it starts from, extended by its transforms. -/
def Data.ExtendsStart (r : Registry) (d : Data) : Prop :=
  ∃ start, r.Starts d.source start ∧ d.fields = start.extend d.outputs

/-! ## Lemmas -/

/-! ### Calls -/

variable {r r' : Registry}

theorem Registry.Starts.of_grows (hgrows : r.Grows r') {source : Option String}
    {start : FieldSet} (h : r.Starts source start) : r'.Starts source start := by
  cases h with
  | own => exact .own
  | taken hs => exact .taken (hgrows.findData? hs)

namespace Data

variable {d d' : Data}

theorem outputs_addTransform {t : Transform} (h : d.addTransform r t = .ok d') :
    ∃ more, d'.fields = d.fields.extend more ∧ d'.outputs = d.outputs ++ more ∧
      d'.source = d.source := by
  obtain ⟨t', fields, hattach, rfl⟩ := addTransform_eq_ok.1 h
  obtain ⟨-, -, -, rfl⟩ := Transform.attach_eq_ok.1 hattach
  refine ⟨t'.outputs, rfl, ?_, rfl⟩
  rw [outputs, List.flatMap_append, List.flatMap_singleton]
  rfl

theorem extendsStart_addTransform {t : Transform} (hd : d.ExtendsStart r)
    (h : d.addTransform r t = .ok d') : d'.ExtendsStart r := by
  obtain ⟨start, hstart, hfields⟩ := hd
  obtain ⟨more, hmore, houtputs, hsource⟩ := outputs_addTransform h
  refine ⟨start, hsource ▸ hstart, ?_⟩
  rw [hmore, hfields, houtputs, FieldSet.extend_extend]

/-- The source can only be set while there are no transforms, so nothing is lost when the context
is replaced. -/
theorem extendsStart_setSource {name : String} (h : d.setSource r name = .ok d') :
    d'.ExtendsStart r := by
  obtain ⟨hnone, s, hs, rfl⟩ := setSource_eq_ok.1 h
  refine ⟨_, .taken hs, ?_⟩
  rw [outputs, hnone]
  rfl

theorem extendsStart_apply {call : DataCall} (hd : d.ExtendsStart r)
    (h : d.apply r call = .ok d') : d'.ExtendsStart r := by
  rcases apply_frame h with hsets | ⟨-, hsource, htransforms, hfields⟩
  · cases call with
    | source name => exact extendsStart_setSource h
    | transform t => exact extendsStart_addTransform hd h
    | transforms ts =>
      exact foldlM_induction (P := ExtendsStart r) h hd
        fun _ _ _ _ hc => extendsStart_addTransform hc
    | values | valuesText | url | format => cases hsets
  · rw [ExtendsStart, outputs, hsource, htransforms, hfields]
    exact hd

end Data

/-- What a draft of a data set keeps, and no other draft is asked. -/
def PartKind.ExtendsStart (r : Registry) : (k : PartKind) → k.Draft → Prop
  | .data => Data.ExtendsStart r
  | .scale => fun _ => True
  | .mark => fun _ => True
  | .axis => fun _ => True

theorem keptByParts_extendsStart : KeptByParts
    (fun r part => ∀ d ∈ part.data?, d.ExtendsStart r) PartKind.ExtendsStart where
  start r k seed := by
    cases k with
    | data => exact ⟨_, .own, rfl⟩
    | scale | mark | axis => trivial
  call r k d d' c hd h := by
    cases k with
    | data => exact Data.extendsStart_apply hd h
    | scale | mark | axis => trivial
  finish r k d made hd h := by
    cases k with
    | data =>
      rw [PartKind.finish] at h
      split at h
      · cases h
      · cases h
        rintro _ ⟨⟩
        exact hd
    | scale | mark | axis => rintro _ ⟨⟩
  transform r kind properties t _ := by rintro _ ⟨⟩
  growsPart r r' part hgrows hpart d hd := by
    obtain ⟨start, hstart, hfields⟩ := hpart d hd
    exact ⟨start, hstart.of_grows hgrows, hfields⟩
  growsDraft r r' k d hgrows hd := by
    cases k with
    | data =>
      obtain ⟨start, hstart, hfields⟩ := hd
      exact ⟨start, hstart.of_grows hgrows, hfields⟩
    | scale | mark | axis => trivial

/-! ### Lineages -/

namespace Registry.Lineage

variable {d : Data} {above above' : List Data}

theorem mem (h : r.Lineage d above) : d ∈ r.data := by
  cases h with
  | root hd => exact hd
  | derived hd => exact hd

/-- Sources stand before the data sets that have them, so that every lineage has a first one. -/
theorem exists_of_sound (h : DataSound r.data) (hd : d ∈ r.data) : ∃ above, r.Lineage d above := by
  induction hplace : r.dataNames.idxOf d.name using Nat.strongRecOn generalizing d with
  | ind place ih =>
    cases hsource : d.source with
    | none => exact ⟨_, .root hd hsource⟩
    | some name =>
      have hname : name ∈ d.dataNames := by
        rw [Data.dataNames, hsource]
        exact List.mem_cons_self
      obtain ⟨before, after, hsplit⟩ := List.append_of_mem hd
      obtain ⟨s, hs, rfl⟩ := List.mem_map.1 (h.earlier before d after hsplit hname)
      have hlt : r.dataNames.idxOf s.name < place := by
        rw [← hplace]
        exact h.idxOf_lt ⟨d, hd, rfl, hname⟩
      have hmem : s ∈ r.data := hsplit ▸ List.mem_append_left _ hs
      obtain ⟨above, habove⟩ := ih _ hlt hmem rfl
      exact ⟨_, .derived hd hsource habove⟩

/-- Names are unique, so that a data set has one lineage only. -/
theorem unique (hnodup : r.dataNames.Nodup) (h : r.Lineage d above) (h' : r.Lineage d above') :
    above' = above := by
  induction h generalizing above' with
  | root hd hsource =>
    cases h' with
    | root => rfl
    | derived _ hsource' => cases hsource.symm.trans hsource'
  | @derived d s above hd hsource hs ih =>
    cases h' with
    | root _ hsource' => cases hsource'.symm.trans hsource
    | @derived _ s' above' _ hsource' hs' =>
      have hname : s'.name = s.name := Option.some.inj (hsource'.symm.trans hsource)
      have hfound := findData?_of_mem hnodup hs'.mem
      rw [hname, findData?_of_mem hnodup hs.mem] at hfound
      obtain rfl := Option.some.inj hfound
      rw [ih hs']

end Registry.Lineage

/-- The context of a registered data set is that of its source, extended by its transforms. -/
theorem Bench.fields_of_source (moves : List Move) {d s : Data}
    (hd : d ∈ (run {} moves).registry.data) (hs : s ∈ (run {} moves).registry.data)
    (hsource : d.source = some s.name) : d.fields = s.fields.extend d.outputs := by
  obtain ⟨start, hstart, hfields⟩ := keptByParts_extendsStart.run moves (.data d) hd d rfl
  rw [hsource] at hstart
  cases hstart with
  | taken hfound =>
    rw [Registry.findData?_of_mem (sound_run moves).data.nodup hs] at hfound
    obtain rfl := Option.some.inj hfound
    rw [hfields, FieldSet.union_of_prefix (beginsStructural_run moves s hs)]

/-- The recursion over the lineage, as sets. -/
theorem Bench.fields_of_lineage (moves : List Move) {d : Data} {lineage : List Data}
    (h : (run {} moves).registry.Lineage d lineage) :
    d.fields = FieldSet.structural.extend (lineage.flatMap Data.outputs) := by
  induction h with
  | @root d hd hsource =>
    obtain ⟨start, hstart, hfields⟩ := keptByParts_extendsStart.run moves (.data d) hd d rfl
    rw [hsource] at hstart
    cases hstart with
    | own => rw [hfields, List.flatMap_singleton]
  | @derived d s above hd hsource hs ih =>
    rw [fields_of_source moves hd hs.mem hsource, ih, FieldSet.extend_extend, List.flatMap_append,
      List.flatMap_singleton]

/-! ## Top theorem -/

/-- After any run of moves from an empty bench, a registered data set has exactly one lineage.  Its
context is the structural fields and then the fields that the transforms of the lineage add, from
the first data set down, without later repetitions.  It has no name twice, and the context of the
source is its beginning. -/
theorem Bench.fields_eq_lineage (moves : List Move) {d : Data}
    (hd : d ∈ (run {} moves).registry.data) :
    (∃ lineage, (∀ l, (run {} moves).registry.Lineage d l ↔ l = lineage) ∧
      d.fields.names = (["data", "index"] ++ lineage.flatMap Data.outputs).eraseDups) ∧
    d.fields.names.Nodup ∧
    ∀ s ∈ (run {} moves).registry.data, d.source = some s.name →
      s.fields.names <+: d.fields.names := by
  have hsound := (sound_run moves).data
  obtain ⟨lineage, hlineage⟩ := Registry.Lineage.exists_of_sound hsound hd
  refine ⟨⟨lineage, ?_, ?_⟩, d.fields.nodup, ?_⟩
  · intro l
    constructor
    · exact hlineage.unique hsound.nodup
    · rintro rfl
      exact hlineage
  · rw [fields_of_lineage moves hlineage]
    exact FieldSet.names_extend _ _
  · intro s hs hsource
    rw [fields_of_source moves hd hs hsource]
    exact s.fields.prefix_extend _

/-- A table with statistics, and a data set behind it that writes `count` again. -/
def Bench.ratioMoves : List Move := [
  .start .data "table",
  .call .data 0 (.transform .priceStats),
  .finish .data 0,
  .start .data "ratios",
  .call .data 0 (.source "table"),
  .call .data 0 (.transforms [.priceFormula "count", .priceFormula "ratio"]),
  .finish .data 0]

/-- The field `count` keeps its place among the statistics, and only `ratio` is new. -/
theorem Bench.fields_eq_lineage_ratios :
    ∃ table ratios, (run {} ratioMoves).registry.Lineage ratios [table, ratios] ∧
      ratios.outputs = ["count", "ratio"] ∧
      ratios.fields.names = (["data", "index"] ++ (table.outputs ++ ratios.outputs)).eraseDups ∧
      ratios.fields.names = table.fields.names ++ ["ratio"] := by
  have hdata : ∃ table ratios, (run {} ratioMoves).registry.data = [table, ratios] ∧
      table.source = none ∧ ratios.source = some table.name ∧
      ratios.outputs = ["count", "ratio"] ∧
      ratios.fields.names = table.fields.names ++ ["ratio"] :=
    ⟨_, _, rfl, rfl, rfl, rfl, by decide⟩
  obtain ⟨table, ratios, hdata, htable, hratios, houtputs, hnew⟩ := hdata
  have hmem : ratios ∈ (run {} ratioMoves).registry.data := by simp [hdata]
  have hroot : (run {} ratioMoves).registry.Lineage table [table] :=
    .root (by simp [hdata]) htable
  have hlineage : (run {} ratioMoves).registry.Lineage ratios [table, ratios] :=
    .derived hmem hratios hroot
  obtain ⟨⟨lineage, hunique, hnames⟩, -⟩ := fields_eq_lineage ratioMoves hmem
  obtain rfl := (hunique _).1 hlineage
  refine ⟨table, ratios, hlineage, houtputs, ?_, hnew⟩
  rw [hnames, List.flatMap_cons, List.flatMap_singleton]

end ChartSpec
