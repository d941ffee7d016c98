import ChartSpec.Proofs.Field.Place
import ChartSpec.Proofs.Scale.Domain

/-!
# Data sets by name

A scale takes a data set itself or its name as a text, and a data set means its records by
position.  The text means the same exactly if it has no point (`Bench.gives_name`): at a first
point it is cut into the name of a data set and a field.

    registered            text            means
    sales                 sales           the positions of `sales`
    sales, sales.2024     sales.2024      the field `2024` of `sales`
    costs.2024            costs.2024      nothing, `costs` is not registered
-/

namespace ChartSpec

/-- The records of a data set, by position. -/
def Data.positions (d : Data) : ScaleValue := .ref ⟨d.name, .one "index"⟩

/-- What comes of an input of scales: as the domain, on its own and before its bounds, as the lower
and the upper bound of the domain, and as the bounds of the range. -/
structure Registry.Gives (r : Registry) (input : ScaleInput) (outcome : Except Error ScaleValue) :
    Prop where
  domain : ∀ s : Scale, s.apply r (.domain input) =
    (inPlace (.domainOf s.name) outcome).map fun v => { s with domain := some v }
  bounded : ∀ (s : Scale) (low high : ScaleInput),
    s.apply r (.domainBounded input low high) = do
      let v ← inPlace (.domainOf s.name) outcome
      ({ s with domain := some v } : Scale).apply r (.domainBounds (some low) (some high))
  domainMin : ∀ (s : Scale) (high : ScaleInput),
    s.apply r (.domainBounds (some input) (some high)) = do
      let v ← outcome
      let w ← r.resolveDomain high
      return { s with domainMin := some v, domainMax := some w }
  domainMax : ∀ (s : Scale) (low : ScaleInput),
    s.apply r (.domainBounds (some low) (some input)) = do
      let w ← r.resolveDomain low
      let v ← outcome
      return { s with domainMin := some w, domainMax := some v }
  rangeMin : ∀ s : Scale, s.apply r (.rangeMin input) =
    outcome.map fun v => { s with rangeMin := some v }
  rangeMax : ∀ s : Scale, s.apply r (.rangeMax input) =
    outcome.map fun v => { s with rangeMax := some v }

/-! ## Lemmas -/

namespace Registry

variable {r : Registry} {d : Data}

theorem gives_resolveDomain (r : Registry) (input : ScaleInput) :
    r.Gives input (r.resolveDomain input) where
  domain _ := rfl
  bounded s low high := by
    simp only [Scale.apply, Scale.setDomain]
    cases inPlace (.domainOf s.name) (r.resolveDomain input) <;> rfl
  domainMin _ _ := rfl
  domainMax _ _ := rfl
  rangeMin _ := rfl
  rangeMax _ := rfl

/-- An input has one outcome. -/
theorem gives_iff {input : ScaleInput} {outcome : Except Error ScaleValue} :
    r.Gives input outcome ↔ r.resolveDomain input = outcome := by
  constructor
  · intro h
    let s : Scale := { name := "", type := .linear }
    have hmap : (r.resolveDomain input).map (fun v => { s with rangeMin := some v }) =
        outcome.map fun v => { s with rangeMin := some v } := h.rangeMin s
    cases hresolve : r.resolveDomain input <;> cases outcome <;>
      simp_all [Except.map]
  · rintro rfl
    exact r.gives_resolveDomain input

theorem resolveDomain_data (hd : r.findData? d.name = some d) :
    r.resolveDomain (.data d.name) = .ok d.positions :=
  map_eq_ok.2 ⟨d, expectData_eq_ok.2 hd, rfl⟩

theorem resolveDomain_reference {token data field : String}
    (h : r.resolveReference token = .ok (data, field)) :
    r.resolveDomain (.reference token) = .ok (.ref ⟨data, .one field⟩) :=
  map_eq_ok.2 ⟨_, map_eq_ok.2 ⟨_, h, rfl⟩, rfl⟩

theorem resolveDomain_name (hd : r.findData? d.name = some d) (hname : '.' ∉ d.name.toList) :
    r.resolveDomain (.reference d.name) = .ok d.positions := by
  have hreference : r.resolveReference d.name = .ok (d.name, "index") := by
    rw [resolveReference, FieldReference.parseQualified, FieldReference.splitPoint_eq_none hname]
    exact bind_eq_ok.2 ⟨d, expectData_eq_ok.2 hd, rfl⟩
  exact resolveDomain_reference hreference

theorem findData?_eq_none {name : String} (h : name ∉ r.dataNames) : r.findData? name = none := by
  rw [← Option.not_isSome_iff_eq_none, isSome_findData?]
  exact h

section

variable {source : String} (hsource : '.' ∉ source.toList) (field : String)
include hsource

theorem resolveDomain_point (hd : r.findData? source = some d) :
    r.resolveDomain (.reference (source ++ "." ++ field)) = .ok (.ref ⟨source, .one
      (if field = "" ∨ field = "index" ∨ d.isFlat then "index"
        else FieldReference.place d.fields field)⟩) := by
  refine resolveDomain_reference ?_
  have hplace : FieldReference.resolve ⟨some source, FieldReference.nonEmpty field, true⟩ d.fields =
      if field = "" ∨ field = "index" then "index" else FieldReference.place d.fields field :=
    FieldReference.resolve_eq_place (fun _ => rfl) (by simp)
  have hname : d.name = source := (mem_of_findData? hd).2
  rw [resolveReference, FieldReference.parseQualified_append hsource]
  refine bind_eq_ok.2 ⟨d, expectData_eq_ok.2 hd, ?_⟩
  rw [hplace, hname]
  by_cases hempty : field = "" <;> by_cases hflat : d.isFlat <;>
    simp [FieldReference.nonEmpty, hempty, hflat]

theorem resolveDomain_point_none (hd : r.findData? source = none) :
    r.resolveDomain (.reference (source ++ "." ++ field)) =
      .error (.refused (.notRegistered .data source)) := by
  have hexpect : r.expectData source = .error (.refused (.notRegistered .data source)) := by
    rw [expectData, hd]
    rfl
  rw [resolveDomain, resolveDataRef, resolveReference,
    FieldReference.parseQualified_append hsource]
  simp only [Option.getD_some, hexpect]
  rfl

end

/-- A text with a point means another data set than the one it would be the name of. -/
theorem resolveDomain_ne_of_point {token : String} (hpoint : '.' ∈ token.toList)
    (field : OneOrMany String) : r.resolveDomain (.reference token) ≠ .ok (.ref ⟨token, field⟩) := by
  obtain ⟨source, rest, rfl, hsource⟩ := FieldReference.exists_of_point_mem hpoint
  intro h
  cases hfind : r.findData? source with
  | none =>
    rw [resolveDomain_point_none hsource rest hfind] at h
    cases h
  | some d =>
    rw [resolveDomain_point hsource rest hfind] at h
    have hname : source = source ++ "." ++ rest := by
      injection h with h
      injection h with h
      injection h
    exact hsource (hname ▸ hpoint)

end Registry

/-! ## Top theorem -/

/-- After any run of moves, every registered data set is taken for its records by position.  Its
name stands for it exactly if there is no point in it.  A name with a point is a field of the data
set that is called as it begins, or nothing if none is registered that is called so. -/
theorem Bench.gives_name (moves : List Move) {d : Data} (hd : d ∈ (run {} moves).registry.data) :
    (run {} moves).registry.Gives (.data d.name) (.ok d.positions) ∧
    ((run {} moves).registry.Gives (.reference d.name) (.ok d.positions) ↔
      '.' ∉ d.name.toList) ∧
    ∀ source field, d.name = source ++ "." ++ field → '.' ∉ source.toList →
      (source ∉ (run {} moves).registry.dataNames →
        (run {} moves).registry.Gives (.reference d.name)
          (.error (.refused (.notRegistered .data source)))) ∧
      ∀ e ∈ (run {} moves).registry.data, e.name = source →
        (run {} moves).registry.Gives (.reference d.name) (.ok (.ref ⟨source, .one
          (if field = "" ∨ field = "index" ∨ e.isFlat then "index"
            else FieldReference.place e.fields field)⟩)) := by
  have hnames : (run {} moves).registry.dataNames.Nodup := (sound_run moves).data.nodup
  have hfound := Registry.findData?_of_mem hnames hd
  simp only [Registry.gives_iff]
  refine ⟨Registry.resolveDomain_data hfound, ⟨?_, Registry.resolveDomain_name hfound⟩, ?_⟩
  · intro hname hpoint
    exact Registry.resolveDomain_ne_of_point hpoint _ hname
  · intro source field hname hsource
    rw [hname]
    constructor
    · intro hnone
      exact Registry.resolveDomain_point_none hsource field (Registry.findData?_eq_none hnone)
    · rintro e he rfl
      exact Registry.resolveDomain_point hsource field (Registry.findData?_of_mem hnames he)

/-- Two data sets of which one is called like a field of the other, and one called like a field of
a data set that there is not. -/
def Bench.salesMoves : List Move := [
  .start .data "sales",
  .call .data 0 (.values (.arr [.obj [("price", .int 1)]])),
  .finish .data 0,
  .start .data "sales.2024",
  .call .data 0 (.values (.arr [.obj [("price", .int 2)]])),
  .finish .data 0,
  .start .data "costs.2024",
  .finish .data 0]

theorem Bench.gives_name_sales :
    ∃ d ∈ (run {} salesMoves).registry.data, d.name = "sales" ∧
      (run {} salesMoves).registry.Gives (.data d.name) (.ok d.positions) ∧
      (run {} salesMoves).registry.Gives (.reference d.name) (.ok d.positions) := by
  have hd : ∃ d rest, (run {} salesMoves).registry.data = d :: rest ∧ d.name = "sales" :=
    ⟨_, _, rfl, rfl⟩
  obtain ⟨d, rest, hdata, hsales⟩ := hd
  have hmem : d ∈ (run {} salesMoves).registry.data := hdata ▸ List.mem_cons_self
  obtain ⟨hobject, htext, -⟩ := gives_name salesMoves hmem
  refine ⟨d, hmem, hsales, hobject, htext.2 ?_⟩
  rw [hsales]
  decide

/-- Two registered data sets whose names do not stand for them. -/
theorem Bench.not_gives_name :
    ∃ d ∈ (run {} salesMoves).registry.data, ∃ e ∈ (run {} salesMoves).registry.data,
      (run {} salesMoves).registry.Gives (.data d.name) (.ok (.ref ⟨"sales.2024", .one "index"⟩)) ∧
      (run {} salesMoves).registry.Gives (.reference d.name)
        (.ok (.ref ⟨"sales", .one "data.2024"⟩)) ∧
      (run {} salesMoves).registry.Gives (.data e.name) (.ok (.ref ⟨"costs.2024", .one "index"⟩)) ∧
      (run {} salesMoves).registry.Gives (.reference e.name)
        (.error (.refused (.notRegistered .data "costs"))) := by
  refine ⟨(run {} salesMoves).registry.data[1], List.getElem_mem _,
    (run {} salesMoves).registry.data[2], List.getElem_mem _, ?_⟩
  simp only [Registry.gives_iff]
  decide

end ChartSpec
