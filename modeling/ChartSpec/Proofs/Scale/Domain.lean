import ChartSpec.Proofs.Data.Context
import ChartSpec.Proofs.Field.Qualified
import ChartSpec.Proofs.Mark.Context

/-!
# Fields in domains and in marks

A domain names a field behind its data set, as in `table.price`.  A mark that is bound to the data
set names the field on its own, as in `price`, or as the domain does.  All three mean one place in
the records (`Bench.domain_field_eq_mark_field`).
-/

namespace ChartSpec

/-- Marks bound to a data set store a token as a path: whatever slot the token is last given for,
a built mark has the path there, and the key takes the token in marks of every type. -/
structure Registry.StoresAs (r : Registry) (data token path : String) : Prop where
  stored : ∀ {type before between after call slot r' m},
    r.buildMark type (before ++ .fromData data :: (between ++ call :: after)) = .ok (r', m) →
    (∀ c ∈ between, ¬ c.SetsContext) → call.Writes slot → (∀ c ∈ after, ¬ c.Writes slot) →
    call.token? r type slot = some token → m.field? slot = some path
  accepted : ∀ type, ∃ r' m, r.buildMark type [.fromData data, .key token] = .ok (r', m)

/-! ## Lemmas -/

variable {r : Registry} {d : Data}

/-! ### Domains -/

namespace Registry

theorem resolveReference_append (hd : r.findData? d.name = some d) (hflat : d.isFlat = false)
    (hname : '.' ∉ d.name.toList) (field : String) :
    r.resolveReference (d.name ++ "." ++ field) =
      .ok (d.name, resolveQualified d.fields (d.name ++ "." ++ field)) := by
  rw [resolveReference, FieldReference.parseQualified_append hname]
  simp only [bind_eq_ok, pure_eq_ok, expectData_eq_ok, Option.getD_some]
  refine ⟨d, hd, ?_⟩
  rw [resolveQualified_append hname, FieldReference.resolve_eq_place (fun _ => rfl) (by simp)]
  unfold FieldReference.nonEmpty
  by_cases hempty : field = "" <;> simp [hempty, hflat]

end Registry

theorem Scale.apply_domain_reference {token data path : String}
    (h : r.resolveReference token = .ok (data, path)) (s : Scale) :
    s.apply r (.domain (.reference token)) =
      .ok { s with domain := some (.ref ⟨data, .one path⟩) } := by
  simp only [apply, setDomain, bind_eq_ok, inPlace_eq_ok, pure_eq_ok, Registry.resolveDomain,
    Registry.resolveDataRef, map_eq_ok]
  exact ⟨_, ⟨_, ⟨_, h, rfl⟩, rfl⟩, rfl⟩

/-! ### Marks -/

namespace Registry

theorem buildMark_key (hd : r.findData? d.name = some d) (type : MarkType) (token : String) :
    ∃ r' m, r.buildMark type [.fromData d.name, .key token] = .ok (r', m) := by
  let bound : Mark := { Mark.ofType type with
    fields := d.fields
    origin := some { data := some d.name } }
  let keyed : Mark := { bound with key := some (resolveField d.fields token) }
  have hbound : (Mark.ofType type).apply r (.fromData d.name) = .ok bound :=
    Mark.apply_fromData.2 ⟨rfl, d, hd, rfl⟩
  have hrun : applyAll Mark.applyAt (Mark.ofType type)
      [(r, .fromData d.name), (r, .key token)] = .ok keyed := by
    rw [applyAll_eq_ok, List.foldlM_cons, bind_eq_ok]
    exact ⟨bound, hbound, rfl⟩
  have hadd : r.addMark keyed = .ok ({ r with marks := r.marks ++ [keyed] }, keyed) :=
    addMark_eq_ok.2 ⟨by rintro _ ⟨⟩, by rintro _ ⟨⟩, rfl, rfl⟩
  exact ⟨_, keyed, buildMark_eq_ok.2 ⟨hrun, hadd⟩⟩

/-- A mark bound to a data set resolves tokens in the context of the data set. -/
theorem storesAs_resolveField (hd : r.findData? d.name = some d) (token : String) :
    r.StoresAs d.name token (resolveField d.fields token) := by
  refine ⟨?_, fun type => buildMark_key hd type token⟩
  intro type before between after call slot r' m hbuilt hbetween hwrites hafter htoken
  obtain ⟨hrun, -⟩ := buildMark_eq_ok.1 hbuilt
  -- The binding and the calls behind it come before the call that writes the slot.
  have hsplit : (before ++ .fromData d.name :: (between ++ call :: after)).map (fun c => (r, c)) =
      (before ++ .fromData d.name :: between).map (fun c => (r, c)) ++
        (r, call) :: after.map (fun c => (r, c)) := by
    simp
  rw [applyAll_eq_ok, hsplit] at hrun
  obtain ⟨draft, hbefore, hfield, -⟩ := Mark.field?_of_last hrun hwrites (by simpa using hafter)
  have hcontext : draft.fields = d.fields := by
    simp only [List.map_append, List.map_cons, List.foldlM_append, List.foldlM_cons,
      bind_eq_ok] at hbefore
    obtain ⟨_, -, bound, hbind, hrest⟩ := hbefore
    obtain ⟨-, d', hd', rfl⟩ := Mark.apply_fromData.1 hbind
    rw [Mark.fields_of_run hrest (by simpa using hbetween)]
    rw [hd] at hd'
    cases hd'
    rfl
  rw [hfield, Mark.type_ofType, htoken, hcontext]
  rfl

end Registry

/-! ## Top theorem -/

/-- Beside any run of moves, let a data set be registered that is not flat and whose name has no
point.  A domain that names any field behind it refers to this data set and to a path, and this is
the path that marks bound to the data set store for the field on its own, if it has no point, and
for the whole token, unless the data set is called `data`. -/
theorem Bench.domain_field_eq_mark_field (moves : List Move) {d : Data}
    (hd : d ∈ (run {} moves).registry.data) (hflat : d.isFlat = false)
    (hname : '.' ∉ d.name.toList) (field : String) :
    ∃ path,
      (∀ s : Scale, s.apply (run {} moves).registry
        (.domain (.reference (d.name ++ "." ++ field))) =
          .ok { s with domain := some (.ref ⟨d.name, .one path⟩) }) ∧
      ('.' ∉ field.toList → (run {} moves).registry.StoresAs d.name field path) ∧
      (d.name ≠ "data" →
        (run {} moves).registry.StoresAs d.name (d.name ++ "." ++ field) path) := by
  have hnames : (run {} moves).registry.dataNames.Nodup := (sound_run moves).data.nodup
  have hfound := Registry.findData?_of_mem hnames hd
  have hfields : FieldSet.structural.names ⊆ d.fields.names :=
    (beginsStructural_run moves d hd).subset
  have hdomain := Registry.resolveReference_append hfound hflat hname field
  refine ⟨resolveQualified d.fields (d.name ++ "." ++ field),
    Scale.apply_domain_reference hdomain, ?_, ?_⟩
  · intro hfield
    rw [resolveQualified_eq_resolveField hfields hname hfield]
    exact Registry.storesAs_resolveField hfound field
  · intro hdata
    rw [resolveQualified_eq_resolveField_append hname hdata]
    exact Registry.storesAs_resolveField hfound (d.name ++ "." ++ field)

/-- A table with a user's field `Count` and the statistics' field `count`. -/
def Bench.countMoves : List Move := [
  .start .data "table",
  .call .data 0 (.values (.arr [.obj [("price", .int 1), ("Count", .int 2)]])),
  .call .data 0 (.transform Transform.priceStats),
  .finish .data 0]

theorem Bench.domain_field_eq_mark_field_count :
    ∃ d ∈ (run {} countMoves).registry.data, d.isFlat = false ∧ '.' ∉ d.name.toList ∧
      ∃ path,
        (∀ s : Scale, s.apply (run {} countMoves).registry
          (.domain (.reference (d.name ++ "." ++ "Count"))) =
            .ok { s with domain := some (.ref ⟨d.name, .one path⟩) }) ∧
        (run {} countMoves).registry.StoresAs d.name "Count" path ∧
        (run {} countMoves).registry.StoresAs d.name (d.name ++ "." ++ "Count") path := by
  have hd : ∃ d, (run {} countMoves).registry.data = [d] ∧ d.isFlat = false ∧ d.name = "table" :=
    ⟨_, rfl, by decide, rfl⟩
  obtain ⟨d, hdata, hflat, htable⟩ := hd
  have hmem : d ∈ (run {} countMoves).registry.data := hdata ▸ List.mem_singleton_self d
  have hname : '.' ∉ d.name.toList := by
    rw [htable]
    decide
  obtain ⟨path, hdomain, hfield, htoken⟩ :=
    domain_field_eq_mark_field countMoves hmem hflat hname "Count"
  refine ⟨d, hmem, hflat, hname, path, hdomain, hfield (by decide), htoken ?_⟩
  rw [htable]
  decide

end ChartSpec
