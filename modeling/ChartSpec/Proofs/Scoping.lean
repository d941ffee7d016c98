import ChartSpec.Proofs.Collected
import Mathlib.Data.List.Forall2

/-!
# Scoping

Data sets are visible everywhere.  A scale is visible to what stands in the scope that defines it
or in a group inside that scope; a group itself, with its own properties and its delay, stands in
the scope around it.  `Visualization.scaleUses` says which scales are used with which scopes
around them, and a use dangles if none of these scopes defines a scale of its name.  The slots that
a part's names stand in are listed by `Mark.mem_scaleNames`, `Axis.mem_scaleNames` and, for data
sets, by `Data.mem_dataNames`, `Scale.mem_dataNames` and `Mark.mem_dataNames`.

A walk tells scopes apart by paths of ordinals and looks names up by prefixes of paths.  The two
ways agree (`forall₂_agree`), since no two groups have the same path.
-/

namespace ChartSpec

/-- A use of a scale: its name, and the scales of each scope around the place of use, the
outermost scope first. -/
structure ScaleUse where
  name : String
  scopes : List (List Scale)

namespace ScaleUse

/-- Whether one of the scopes defines a scale of the name. -/
def isBound (u : ScaleUse) : Bool :=
  u.scopes.any fun scales => scales.any fun s => s.name == u.name
end ScaleUse

/-- The uses of several scales at one place. -/
def usesIn (scopes : List (List Scale)) (names : List String) : List ScaleUse :=
  names.map fun n => ⟨n, scopes⟩

mutual

/-- The uses of scales in a mark.  Its own stand around it, those of its contents inside it. -/
def Mark.scaleUses (scopes : List (List Scale)) : Mark → List ScaleUse
  | m@⟨.plain _ _, _, _, _, _, _, _, _, _⟩ => usesIn scopes m.scaleNames
  | m@⟨.group scales axes marks, _, _, _, _, _, _, _, _⟩ =>
    usesIn scopes m.scaleNames ++
      ((axes.flatMap fun a => usesIn (scopes ++ [scales]) a.scaleNames) ++
        marksScaleUses (scopes ++ [scales]) marks)

/-- The uses of scales in marks beside each other. -/
def marksScaleUses (scopes : List (List Scale)) : List Mark → List ScaleUse
  | [] => []
  | m :: rest => m.scaleUses scopes ++ marksScaleUses scopes rest

end

mutual

/-- The data sets that a mark and its contents refer to. -/
def Mark.allDataNames : Mark → List String
  | m@⟨.plain _ _, _, _, _, _, _, _, _, _⟩ => m.dataNames
  | m@⟨.group scales _ marks, _, _, _, _, _, _, _, _⟩ =>
    m.dataNames ++ (scales.flatMap Scale.dataNames ++ marksDataNames marks)

/-- The data sets that marks beside each other refer to. -/
def marksDataNames : List Mark → List String
  | [] => []
  | m :: rest => m.allDataNames ++ marksDataNames rest

end

namespace Visualization

/-- The uses of scales in a visualization, in the order of the walk. -/
def scaleUses (v : Visualization) : List ScaleUse :=
  (v.axes.flatMap fun a => usesIn [v.scales] a.scaleNames) ++ marksScaleUses [v.scales] v.marks

/-- The data sets that a visualization refers to, in the order of the walk. -/
def dataNames (v : Visualization) : List String :=
  v.data.flatMap Data.dataNames ++ v.scales.flatMap Scale.dataNames ++ marksDataNames v.marks

/-- The data sets that are referred to and not included, by first reference. -/
def missingData (v : Visualization) : List String :=
  (v.dataNames.filter fun n => !v.data.any fun d => d.name == n).eraseDups

/-- The names of the scales that are used where none of that name is defined, by first use. -/
def missingScales (v : Visualization) : List String :=
  ((v.scaleUses.filter fun u => !u.isBound).map ScaleUse.name).eraseDups

end Visualization

/-! ## Lemmas -/

theorem ScaleUse.isBound_iff (u : ScaleUse) :
    u.isBound = true ↔ ∃ scales ∈ u.scopes, ∃ s ∈ scales, s.name = u.name := by
  simp [isBound, List.any_eq_true]

theorem mem_usesIn {scopes : List (List Scale)} {names : List String} {u : ScaleUse} :
    u ∈ usesIn scopes names ↔ u.name ∈ names ∧ u.scopes = scopes := by
  rw [usesIn, List.mem_map]
  constructor
  · rintro ⟨n, hn, rfl⟩
    exact ⟨hn, rfl⟩
  · rintro ⟨hn, rfl⟩
    exact ⟨u.name, hn, rfl⟩

theorem marksScaleUses_plain (scopes : List (List Scale)) {m : Mark} {type : MarkType}
    {h : type ≠ .group} (rest : List Mark) (hm : m.body = .plain type h) :
    marksScaleUses scopes (m :: rest) =
      usesIn scopes m.scaleNames ++ marksScaleUses scopes rest := by
  obtain ⟨body, _, _, _, _, _, _, _, _⟩ := m
  subst hm
  rfl

theorem marksScaleUses_group (scopes : List (List Scale)) {m : Mark} {scales : List Scale}
    {axes : List Axis} {marks : List Mark} (rest : List Mark)
    (hm : m.body = .group scales axes marks) :
    marksScaleUses scopes (m :: rest) =
      usesIn scopes m.scaleNames ++
        ((axes.flatMap fun a => usesIn (scopes ++ [scales]) a.scaleNames) ++
          marksScaleUses (scopes ++ [scales]) marks) ++ marksScaleUses scopes rest := by
  obtain ⟨body, _, _, _, _, _, _, _, _⟩ := m
  subst hm
  rfl

theorem marksDataNames_plain {m : Mark} {type : MarkType} {h : type ≠ .group} (rest : List Mark)
    (hm : m.body = .plain type h) :
    marksDataNames (m :: rest) = m.dataNames ++ marksDataNames rest := by
  obtain ⟨body, _, _, _, _, _, _, _, _⟩ := m
  subst hm
  rfl

theorem marksDataNames_group {m : Mark} {scales : List Scale} {axes : List Axis}
    {marks : List Mark} (rest : List Mark) (hm : m.body = .group scales axes marks) :
    marksDataNames (m :: rest) =
      m.dataNames ++ (scales.flatMap Scale.dataNames ++ marksDataNames marks) ++
        marksDataNames rest := by
  obtain ⟨body, _, _, _, _, _, _, _, _⟩ := m
  subst hm
  rfl

/-! ### Data sets -/

theorem flatMap_dataNames_scopeVisits (scope : Scope) (scales : List Scale) (axes : List Axis) :
    (scopeVisits scope scales axes).flatMap Visit.dataNames = scales.flatMap Scale.dataNames := by
  simp [scopeVisits, List.flatMap_map, Visit.dataNames]

theorem flatMap_dataNames_marksVisits (scope : Scope) (groups : Nat) (marks : List Mark) :
    (marksVisits scope groups marks).flatMap Visit.dataNames = marksDataNames marks := by
  induction marks using marks_induction generalizing scope groups with
  | nil => rfl
  | plain m type h rest hm ih =>
    rw [marksVisits_plain scope groups rest hm, marksDataNames_plain rest hm, List.flatMap_cons, ih]
    rfl
  | group m scales axes marks rest hm ihMarks ihRest =>
    rw [marksVisits_group scope groups rest hm, marksDataNames_group rest hm, List.flatMap_cons,
      List.flatMap_append, List.flatMap_append, flatMap_dataNames_scopeVisits, ihMarks, ihRest]
    simp [Visit.dataNames]

theorem flatMap_definedData_marksVisits (scope : Scope) (groups : Nat) (marks : List Mark) :
    (marksVisits scope groups marks).flatMap Visit.definedData = [] := by
  induction marks using marks_induction generalizing scope groups with
  | nil => rfl
  | plain m type h rest hm ih =>
    rw [marksVisits_plain scope groups rest hm, List.flatMap_cons, ih]
    rfl
  | group m scales axes marks rest hm ihMarks ihRest =>
    rw [marksVisits_group scope groups rest hm]
    simp [scopeVisits, List.flatMap_map, Visit.definedData, ihMarks, ihRest]

/-! ### Paths and scopes -/

theorem mem_definedScales_scopeVisits {scope path : Scope} {scales : List Scale}
    {axes : List Axis} {name : String} :
    (path, name) ∈ (scopeVisits scope scales axes).flatMap Visit.definedScales ↔
      path = scope ∧ ∃ s ∈ scales, s.name = name := by
  simp only [scopeVisits, List.flatMap_append, List.flatMap_map, Visit.definedScales,
    List.mem_append, List.mem_flatMap, List.mem_singleton, Prod.mk.injEq, List.not_mem_nil,
    and_false, exists_false, or_false]
  constructor
  · rintro ⟨s, hs, rfl, rfl⟩
    exact ⟨rfl, s, hs, rfl⟩
  · rintro ⟨rfl, s, hs, rfl⟩
    exact ⟨s, hs, rfl, rfl⟩

theorem mem_definedScales_group {scope path : Scope} {groups : Nat} {m : Mark}
    {scales : List Scale} {axes : List Axis} {marks rest : List Mark} {name : String}
    (hm : m.body = .group scales axes marks) :
    (path, name) ∈ (marksVisits scope groups (m :: rest)).flatMap Visit.definedScales ↔
      (path = scope ++ [groups] ∧ ∃ s ∈ scales, s.name = name) ∨
      (path, name) ∈ (marksVisits (scope ++ [groups]) 0 marks).flatMap Visit.definedScales ∨
      (path, name) ∈ (marksVisits scope (groups + 1) rest).flatMap Visit.definedScales := by
  rw [marksVisits_group scope groups rest hm, List.flatMap_cons, List.flatMap_append,
    List.flatMap_append, List.mem_append, List.mem_append, List.mem_append,
    mem_definedScales_scopeVisits, or_assoc]
  simp [Visit.definedScales]

/-- The marks of a scope define scales under it only, in groups that are still to come. -/
theorem exists_of_mem_definedScales {scope path : Scope} {groups : Nat} {marks : List Mark}
    {name : String}
    (h : (path, name) ∈ (marksVisits scope groups marks).flatMap Visit.definedScales) :
    ∃ ordinal inner, groups ≤ ordinal ∧ path = scope ++ ordinal :: inner := by
  induction marks using marks_induction generalizing scope groups with
  | nil => simp at h
  | plain m type hm' rest hm ih =>
    rw [marksVisits_plain scope groups rest hm] at h
    exact ih h
  | group m scales axes marks rest hm ihMarks ihRest =>
    rcases (mem_definedScales_group hm).1 h with ⟨hpath, -⟩ | h | h
    · exact ⟨groups, [], Nat.le_refl _, hpath⟩
    · obtain ⟨ordinal, inner, -, hpath⟩ := ihMarks h
      exact ⟨groups, ordinal :: inner, Nat.le_refl _, by simp [hpath]⟩
    · obtain ⟨ordinal, inner, hle, hpath⟩ := ihRest h
      exact ⟨ordinal, inner, by omega, hpath⟩

/-- Looking a name up by the prefixes of a path finds what the scopes define. -/
def Sees (defined : List (Scope × String)) (path : Scope) (scopes : List (List Scale)) : Prop :=
  ∀ name, (∃ d ∈ defined, d.2 = name ∧ d.1 <+: path) ↔
    ∃ scales ∈ scopes, ∃ s ∈ scales, s.name = name

/-- Under a path, from a group on, nothing is defined but by the marks that are to come. -/
def OnlyBy (defined : List (Scope × String)) (path : Scope) (groups : Nat)
    (marks : List Mark) : Prop :=
  ∀ ordinal inner name, groups ≤ ordinal →
    ((path ++ ordinal :: inner, name) ∈ defined ↔
      (path ++ ordinal :: inner, name) ∈
        (marksVisits path groups marks).flatMap Visit.definedScales)

/-- What is defined under a group comes from the group, and from no mark beside it. -/
theorem OnlyBy.group {defined : List (Scope × String)} {path : Scope} {groups : Nat} {m : Mark}
    {scales : List Scale} {axes : List Axis} {marks rest : List Mark}
    (hm : m.body = .group scales axes marks) (h : OnlyBy defined path groups (m :: rest)) :
    (∀ name, (path ++ [groups], name) ∈ defined ↔ ∃ s ∈ scales, s.name = name) ∧
      OnlyBy defined (path ++ [groups]) 0 marks ∧ OnlyBy defined path (groups + 1) rest := by
  refine ⟨fun name => ?_, fun ordinal inner name _ => ?_, fun ordinal inner name hle => ?_⟩
  · rw [h groups [] name (Nat.le_refl _), mem_definedScales_group hm]
    constructor
    · rintro (⟨-, hs⟩ | hin | hin)
      · exact hs
      · obtain ⟨_, _, -, hpath⟩ := exists_of_mem_definedScales hin
        simp at hpath
      · obtain ⟨_, _, hle, hpath⟩ := exists_of_mem_definedScales hin
        simp at hpath
        omega
    · intro hs
      exact Or.inl ⟨rfl, hs⟩
  · have hpath : path ++ [groups] ++ ordinal :: inner = path ++ groups :: ordinal :: inner := by
      simp
    rw [hpath, h groups _ name (Nat.le_refl _), mem_definedScales_group hm]
    constructor
    · rintro (⟨hp, -⟩ | hin | hin)
      · simp at hp
      · exact hin
      · obtain ⟨_, _, hle, hp⟩ := exists_of_mem_definedScales hin
        simp at hp
        omega
    · intro hin
      exact Or.inr (Or.inl hin)
  · rw [h ordinal inner name (by omega), mem_definedScales_group hm]
    constructor
    · rintro (⟨hp, -⟩ | hin | hin)
      · simp at hp
        omega
      · obtain ⟨_, _, -, hp⟩ := exists_of_mem_definedScales hin
        simp at hp
        omega
      · exact hin
    · intro hin
      exact Or.inr (Or.inr hin)

/-- Inside a group its own scales come into sight. -/
theorem Sees.group {defined : List (Scope × String)} {path : Scope} {scopes : List (List Scale)}
    {ordinal : Nat} {scales : List Scale} (h : Sees defined path scopes)
    (hscales : ∀ name, (path ++ [ordinal], name) ∈ defined ↔ ∃ s ∈ scales, s.name = name) :
    Sees defined (path ++ [ordinal]) (scopes ++ [scales]) := by
  intro name
  simp only [List.prefix_concat_iff, List.mem_append, List.mem_singleton]
  constructor
  · rintro ⟨⟨p, _⟩, hd, rfl, rfl | hp⟩
    · exact ⟨scales, Or.inr rfl, (hscales _).1 hd⟩
    · obtain ⟨outer, ho, hs⟩ := (h _).1 ⟨_, hd, rfl, hp⟩
      exact ⟨outer, Or.inl ho, hs⟩
  · rintro ⟨outer, ho | rfl, hs⟩
    · obtain ⟨d, hd, hn, hp⟩ := (h name).2 ⟨outer, ho, hs⟩
      exact ⟨d, hd, hn, Or.inr hp⟩
    · exact ⟨_, (hscales name).2 hs, rfl, Or.inl rfl⟩

/-! ### Uses -/

/-- A use by path and a use by scopes: the same name, found either way or neither way. -/
def Agree (r : References) (p : Scope × String) (u : ScaleUse) : Prop :=
  p.2 = u.name ∧ r.isScaleVisible p.2 p.1 = u.isBound

theorem forall₂_agree_usesIn {r : References} {path : Scope} {scopes : List (List Scale)}
    (h : Sees r.scales path scopes) (names : List String) :
    List.Forall₂ (Agree r) (names.map fun n => (path, n)) (usesIn scopes names) := by
  rw [usesIn, List.forall₂_map_left_iff, List.forall₂_map_right_iff, List.forall₂_same]
  intro n _
  refine ⟨rfl, ?_⟩
  rw [Bool.eq_iff_iff, References.isScaleVisible_iff, ScaleUse.isBound_iff]
  exact h n

theorem forall₂_agree_axes {r : References} {path : Scope} {scopes : List (List Scale)}
    (h : Sees r.scales path scopes) (scales : List Scale) (axes : List Axis) :
    List.Forall₂ (Agree r) ((scopeVisits path scales axes).flatMap Visit.usedScales)
      (axes.flatMap fun a => usesIn scopes a.scaleNames) := by
  have hscales : (scales.map (Visit.scale · path)).flatMap Visit.usedScales = [] := by
    simp [List.flatMap_map, Visit.usedScales]
  rw [scopeVisits, List.flatMap_append, hscales, List.nil_append, List.flatMap_map]
  induction axes with
  | nil => exact .nil
  | cons a axes ih =>
    rw [List.flatMap_cons, List.flatMap_cons]
    exact List.rel_append (forall₂_agree_usesIn h a.scaleNames) ih

theorem forall₂_agree {r : References} {path : Scope} {groups : Nat}
    {scopes : List (List Scale)} {marks : List Mark} (hsees : Sees r.scales path scopes)
    (honly : OnlyBy r.scales path groups marks) :
    List.Forall₂ (Agree r) ((marksVisits path groups marks).flatMap Visit.usedScales)
      (marksScaleUses scopes marks) := by
  induction marks using marks_induction generalizing path groups scopes with
  | nil => exact .nil
  | plain m type h rest hm ih =>
    have hrest : OnlyBy r.scales path groups rest := by
      intro ordinal inner name hle
      rw [honly ordinal inner name hle, marksVisits_plain path groups rest hm]
      rfl
    rw [marksVisits_plain path groups rest hm, marksScaleUses_plain scopes rest hm,
      List.flatMap_cons]
    exact List.rel_append (forall₂_agree_usesIn hsees m.scaleNames) (ih hsees hrest)
  | group m scales axes marks rest hm ihMarks ihRest =>
    obtain ⟨hscales, hmarks, hrest⟩ := honly.group hm
    have hinside := hsees.group hscales
    have hown := forall₂_agree_usesIn hsees m.scaleNames
    rw [marksVisits_group path groups rest hm, marksScaleUses_group scopes rest hm,
      List.flatMap_cons, List.flatMap_append, List.flatMap_append, ← List.append_assoc]
    simp only [Visit.usedScales, List.dropLast_concat]
    exact List.rel_append
      (List.rel_append hown (List.rel_append (forall₂_agree_axes hinside scales axes)
        (ihMarks hinside hmarks))) (ihRest hsees hrest)

theorem map_filter_of_agree {r : References} {ps : List (Scope × String)} {us : List ScaleUse}
    (h : List.Forall₂ (Agree r) ps us) :
    (ps.filter fun p => !r.isScaleVisible p.2 p.1).map Prod.snd =
      (us.filter fun u => !u.isBound).map ScaleUse.name := by
  induction h with
  | nil => rfl
  | cons hab _ ih =>
    obtain ⟨hname, hfound⟩ := hab
    rw [List.filter_cons, List.filter_cons, hfound]
    split
    · rw [List.map_cons, List.map_cons, ih, hname]
    · exact ih

namespace Visualization

theorem mem_definedScales_visits (v : Visualization) (path : Scope) (name : String) :
    (path, name) ∈ v.visits.flatMap Visit.definedScales ↔
      (path = [] ∧ ∃ s ∈ v.scales, s.name = name) ∨
      (path, name) ∈ (marksVisits [] 0 v.marks).flatMap Visit.definedScales := by
  rw [visits, List.flatMap_cons, List.flatMap_append, List.flatMap_append, List.mem_append,
    List.mem_append, List.mem_append, mem_definedScales_scopeVisits]
  simp [Visit.definedScales, List.flatMap_map]

theorem forall₂_agree_visits (v : Visualization) :
    List.Forall₂ (Agree (References.collect {} v.visits)) (v.visits.flatMap Visit.usedScales)
      v.scaleUses := by
  have hmem : ∀ p, p ∈ (References.collect {} v.visits).scales ↔
      p ∈ v.visits.flatMap Visit.definedScales := by
    intro p
    simp [References.collect, foldl_addNew_nil]
  have hsees : Sees (References.collect {} v.visits).scales [] [v.scales] := by
    intro name
    simp only [List.prefix_nil, List.mem_singleton, exists_eq_left]
    constructor
    · rintro ⟨⟨_, _⟩, hd, rfl, rfl⟩
      rcases (v.mem_definedScales_visits _ _).1 ((hmem _).1 hd) with ⟨-, hs⟩ | hin
      · exact hs
      · obtain ⟨_, _, -, hpath⟩ := exists_of_mem_definedScales hin
        simp at hpath
    · intro hs
      have hdefined := (v.mem_definedScales_visits [] name).2 (Or.inl ⟨rfl, hs⟩)
      exact ⟨([], name), (hmem _).2 hdefined, rfl, rfl⟩
  have honly : OnlyBy (References.collect {} v.visits).scales [] 0 v.marks := by
    intro ordinal inner name _
    rw [hmem, mem_definedScales_visits]
    simp
  have hdata : (v.data.map (Visit.data · [])).flatMap Visit.usedScales = [] := by
    simp [List.flatMap_map, Visit.usedScales]
  rw [visits, scaleUses, List.flatMap_cons, List.flatMap_append, List.flatMap_append, hdata]
  exact List.rel_append (forall₂_agree_axes hsees v.scales v.axes) (forall₂_agree hsees honly)

theorem flatMap_dataNames_visits (v : Visualization) :
    v.visits.flatMap Visit.dataNames = v.dataNames := by
  rw [visits, dataNames, List.flatMap_cons, List.flatMap_append, List.flatMap_append,
    flatMap_dataNames_scopeVisits, flatMap_dataNames_marksVisits, List.flatMap_map]
  rfl

theorem flatMap_definedData_visits (v : Visualization) :
    v.visits.flatMap Visit.definedData = v.data.map Data.name := by
  have hscope : (scopeVisits [] v.scales v.axes).flatMap Visit.definedData = [] := by
    simp [scopeVisits, List.flatMap_map, Visit.definedData]
  rw [visits, List.flatMap_cons, List.flatMap_append, List.flatMap_append,
    flatMap_definedData_marksVisits, hscope, List.append_nil, List.append_nil, List.flatMap_map,
    List.map_eq_flatMap]
  rfl

theorem danglingReferences_eq (v : Visualization) :
    v.danglingReferences =
      .ok (v.missingData.map (fun n => "Data " ++ n) ++
        v.missingScales.map fun n => "Scale " ++ n) := by
  have hname : ∀ n, (v.data.map Data.name).contains n = v.data.any fun d => d.name == n := by
    intro n
    rw [List.contains_eq_any_beq, List.any_map]
    congr 1
    funext d
    exact Bool.beq_comm
  have huses := map_filter_of_agree v.forall₂_agree_visits
  have hinj : Function.Injective fun n => "Scale " ++ n :=
    fun _ _ h => (String.append_right_inj _).1 h
  rw [danglingReferences, references_eq]
  simp only [Except.map, References.dangling_collect, flatMap_dataNames_visits,
    flatMap_definedData_visits, hname]
  rw [missingData, missingScales, ← eraseDups_map_of_injective hinj, ← huses, List.map_map]
  rfl

theorem mem_missingData {v : Visualization} {name : String} :
    name ∈ v.missingData ↔ name ∈ v.dataNames ∧ ∀ d ∈ v.data, d.name ≠ name := by
  simp [missingData]

theorem mem_missingScales {v : Visualization} {name : String} :
    name ∈ v.missingScales ↔
      ∃ u ∈ v.scaleUses, u.name = name ∧ ∀ scales ∈ u.scopes, ∀ s ∈ scales, s.name ≠ name := by
  simp only [missingScales, List.mem_eraseDups, List.mem_map, List.mem_filter, Bool.not_eq_true',
    ← Bool.not_eq_true, ScaleUse.isBound_iff, not_exists, not_and]
  constructor
  · rintro ⟨u, ⟨hu, hfree⟩, rfl⟩
    exact ⟨u, hu, rfl, hfree⟩
  · rintro ⟨u, hu, rfl, hfree⟩
    exact ⟨u, ⟨hu, hfree⟩, rfl⟩

end Visualization

/-! ## Top theorem -/

/-- Two groups beside each other, of which only the first defines one of the scales they show. -/
example : Visualization.danglingReferences {
    width := 200
    height := 100
    viewport := ⟨200, 100⟩
    padding := .uniform 0
    scales := [{ name := "y", type := .linear }]
    marks := [
      { body := .group [{ name := "x", type := .linear }] [{ type := .x, scale := "x" }] [] },
      { body := .group [] [{ type := .x, scale := "x" }, { type := .y, scale := "y" }] [] }]
  } = .ok ["Scale x"] := rfl

end ChartSpec
