import ChartSpec.Proofs.Field.Place
import ChartSpec.Proofs.Scale.Domain

/-!
# Addressing outputs

The fields behind a data set are those that transforms have added under any name that the user
likes.  A token is taken apart before it is looked up, so not every such name reaches its field:

    field      mark bound to table     domain table.field
    total      total                   total
    a.b        data.b                  a.b
    data.b     data.b                  data.b
    (empty)    index                   index

`Bench.output_addressable_iff` says which names do.
-/

namespace ChartSpec

/-! ## Lemmas -/

variable {r : Registry} {d : Data} {path : String}

/-- A token is stored as one path only. -/
theorem Registry.storesAs_iff (hd : r.findData? d.name = some d) {token : String} :
    r.StoresAs d.name token path ↔ path = resolveField d.fields token := by
  have hresolved := storesAs_resolveField hd token
  constructor
  · intro hstores
    obtain ⟨r', m, hbuilt⟩ := hstores.accepted .symbol
    have hkey : ∀ {path'}, r.StoresAs d.name token path' → m.field? .key = some path' :=
      fun h => @Registry.StoresAs.stored r d.name token _ h .symbol [] [] [] (.key token) .key
        r' m hbuilt (by simp) trivial (by simp) rfl
    exact Option.some.inj ((hkey hstores).symm.trans (hkey hresolved))
  · rintro rfl
    exact hresolved

/-- A domain token refers to one field only. -/
theorem Scale.apply_domain_reference_iff {token data found : String}
    (h : r.resolveReference token = .ok (data, found)) :
    (∀ s : Scale, s.apply r (.domain (.reference token)) =
      .ok { s with domain := some (.ref ⟨data, .one path⟩) }) ↔ path = found := by
  have hfound := apply_domain_reference h
  constructor
  · intro hpath
    have hboth := (hpath { name := "", type := .linear }).symm.trans (hfound _)
    simpa using hboth
  · rintro rfl
    exact hfound

/-! ## Top theorem -/

/-- Which fields behind a registered data set can be addressed by their names.  A mark bound to the
data set stores a field under its name exactly if the name is not empty and has no point, or is
spelled as a field of the user's data.  A domain that names the data set reaches every field whose
name is not empty, if the data set is not flat and its own name has no point. -/
theorem Bench.output_addressable_iff (moves : List Move) {d : Data}
    (hd : d ∈ (run {} moves).registry.data) {name : String} (hname : name ∈ d.fields.names) :
    ((run {} moves).registry.StoresAs d.name name name ↔
      name ≠ "" ∧ ('.' ∉ name.toList ∨
        ∃ field, field ≠ "" ∧ field ≠ "index" ∧ name = "data." ++ field)) ∧
    (d.isFlat = false → '.' ∉ d.name.toList →
      ((∀ s : Scale, s.apply (run {} moves).registry
        (.domain (.reference (d.name ++ "." ++ name))) =
          .ok { s with domain := some (.ref ⟨d.name, .one name⟩) }) ↔ name ≠ "")) := by
  have hnames : (run {} moves).registry.dataNames.Nodup := (sound_run moves).data.nodup
  have hfound := Registry.findData?_of_mem hnames hd
  refine ⟨?_, fun hflat hpoint => ?_⟩
  · rw [Registry.storesAs_iff hfound, eq_comm, FieldSet.resolveField_eq_self_iff hname]
  · have hdomain := Registry.resolveReference_append hfound hflat hpoint name
    rw [Scale.apply_domain_reference_iff hdomain, resolveQualified_append hpoint,
      FieldReference.place_of_mem hname]
    by_cases hempty : name = ""
    · simp [hempty]
    · by_cases hindex : name = "index"
      · simp [hindex]
      · simp [hempty, hindex]

/-- The field `count` of the statistics. -/
theorem Bench.output_addressable_iff_count :
    ∃ d ∈ (run {} countMoves).registry.data, "count" ∈ d.fields.names ∧
      (run {} countMoves).registry.StoresAs d.name "count" "count" ∧
      ∀ s : Scale, s.apply (run {} countMoves).registry
        (.domain (.reference (d.name ++ "." ++ "count"))) =
          .ok { s with domain := some (.ref ⟨d.name, .one "count"⟩) } := by
  have hd : ∃ d, (run {} countMoves).registry.data = [d] ∧ "count" ∈ d.fields.names ∧
      d.isFlat = false ∧ '.' ∉ d.name.toList :=
    ⟨_, rfl, by decide, by decide, by decide⟩
  obtain ⟨d, hdata, hcount, hflat, hpoint⟩ := hd
  have hmem : d ∈ (run {} countMoves).registry.data := hdata ▸ List.mem_singleton_self d
  obtain ⟨hmark, hdomain⟩ := output_addressable_iff countMoves hmem hcount
  exact ⟨d, hmem, hcount, hmark.2 ⟨by decide, .inl (by decide)⟩,
    (hdomain hflat hpoint).2 (by decide)⟩

/-- A formula that writes the records' prices to a field. -/
def Transform.priceFormula (field : String) : Transform :=
  ⟨.formula, .cons (.given field) (.cons (.given "d.data.price") .nil)⟩

/-- A table with a field whose name has a point and one whose name is empty. -/
def Bench.formulaMoves : List Move := [
  .start .data "table",
  .call .data 0 (.values (.arr [.obj [("price", .int 1)]])),
  .call .data 0 (.transforms [.priceFormula "a.b", .priceFormula ""]),
  .finish .data 0]

/-- The one is not found by marks, the other by no domain. -/
theorem Bench.outputs_not_addressable :
    let r := (run {} formulaMoves).registry
    ∃ d ∈ r.data, "a.b" ∈ d.fields.names ∧ "" ∈ d.fields.names ∧ d.isFlat = false ∧
      d.name = "table" ∧
      (∃ r' m, r.buildMark .symbol [.fromData "table", .key "a.b"] = .ok (r', m) ∧
        m.key = some "data.b") ∧
      ¬ r.StoresAs d.name "a.b" "a.b" ∧
      ∀ s : Scale, s.apply r (.domain (.reference "table.")) =
        .ok { s with domain := some (.ref ⟨"table", .one "index"⟩) } := by
  intro r
  have hd : ∃ d, r.data = [d] ∧ r.findData? d.name = some d ∧ "a.b" ∈ d.fields.names ∧
      "" ∈ d.fields.names ∧ d.isFlat = false ∧ d.name = "table" ∧
      resolveField d.fields "a.b" = "data.b" :=
    ⟨_, rfl, rfl, by decide, by decide, by decide, rfl, by decide⟩
  obtain ⟨d, hdata, hfound, hpoint, hempty, hflat, hname, hpath⟩ := hd
  refine ⟨d, hdata ▸ List.mem_singleton_self d, hpoint, hempty, hflat, hname, ⟨_, _, rfl, ?_⟩,
    ?_, fun s => rfl⟩
  · decide
  · rw [Registry.storesAs_iff hfound, hpath]
    decide

end ChartSpec
