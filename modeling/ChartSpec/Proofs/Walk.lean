import ChartSpec.Walk

/-!
# The visits of a walk

A walk makes a fixed list of visits.  The visitor only decides how far it gets:

    v.walk visit state = v.visits.foldlM visit state      (Visualization.walk_eq_foldlM)

A list of marks is a forest, and what holds of all marks is shown by `marks_induction`: a mark
without contents, or a group whose contents come before the marks beside it.
-/

namespace ChartSpec

/-! ## Forests of marks -/

theorem Mark.isGroup_of_plain {m : Mark} {type : MarkType} {h : type ≠ .group}
    (hm : m.body = .plain type h) : m.isGroup = false := by
  simp [Mark.isGroup, Mark.type, hm, Body.type, h]

theorem Mark.isGroup_of_group {m : Mark} {scales : List Scale} {axes : List Axis}
    {marks : List Mark} (hm : m.body = .group scales axes marks) : m.isGroup = true := by
  simp [Mark.isGroup, Mark.type, hm, Body.type]

@[elab_as_elim]
theorem marks_induction {P : List Mark → Prop} (nil : P [])
    (plain : ∀ (m : Mark) (type : MarkType) (h : type ≠ .group) (rest : List Mark),
      m.body = .plain type h → P rest → P (m :: rest))
    (group : ∀ (m : Mark) (scales : List Scale) (axes : List Axis) (marks rest : List Mark),
      m.body = .group scales axes marks → P marks → P rest → P (m :: rest)) :
    ∀ marks : List Mark, P marks
  | [] => nil
  | ⟨.plain type h, _, _, _, _, _, _, _, _⟩ :: rest =>
    plain _ type h rest rfl (marks_induction nil plain group rest)
  | ⟨.group scales axes marks, _, _, _, _, _, _, _, _⟩ :: rest =>
    group _ scales axes marks rest rfl (marks_induction nil plain group marks)
      (marks_induction nil plain group rest)

/-! ## Visits -/

/-- The visits of the scales and axes of a scope. -/
def scopeVisits (scope : Scope) (scales : List Scale) (axes : List Axis) : List Visit :=
  scales.map (.scale · scope) ++ axes.map (.axis · scope)

mutual

/-- The visits of a mark; `ordinal` is the place of a group among the groups beside it. -/
def Mark.visits (scope : Scope) (ordinal : Nat) : Mark → List Visit
  | m@⟨.plain _ _, _, _, _, _, _, _, _, _⟩ => [.mark m scope]
  | m@⟨.group scales axes marks, _, _, _, _, _, _, _, _⟩ =>
    .group m (scope ++ [ordinal]) ::
      (scopeVisits (scope ++ [ordinal]) scales axes ++ marksVisits (scope ++ [ordinal]) 0 marks)

/-- The visits of the marks of a scope, of which `groups` groups come before. -/
def marksVisits (scope : Scope) (groups : Nat) : List Mark → List Visit
  | [] => []
  | m :: rest =>
    m.visits scope groups ++ marksVisits scope (if m.isGroup then groups + 1 else groups) rest

end

/-- All visits of a visualization. -/
def Visualization.visits (v : Visualization) : List Visit :=
  .visualization v ::
    (v.data.map (.data · []) ++ scopeVisits [] v.scales v.axes ++ marksVisits [] 0 v.marks)

/-! ## Lemmas -/

@[simp] theorem marksVisits_nil (scope : Scope) (groups : Nat) :
    marksVisits scope groups [] = [] := rfl

theorem marksVisits_plain (scope : Scope) (groups : Nat) {m : Mark} {type : MarkType}
    {h : type ≠ .group} (rest : List Mark) (hm : m.body = .plain type h) :
    marksVisits scope groups (m :: rest) = .mark m scope :: marksVisits scope groups rest := by
  have hg := Mark.isGroup_of_plain hm
  obtain ⟨body, _, _, _, _, _, _, _, _⟩ := m
  subst hm
  simp [marksVisits, Mark.visits, hg]

theorem marksVisits_group (scope : Scope) (groups : Nat) {m : Mark} {scales : List Scale}
    {axes : List Axis} {marks : List Mark} (rest : List Mark)
    (hm : m.body = .group scales axes marks) :
    marksVisits scope groups (m :: rest) =
      .group m (scope ++ [groups]) :: (scopeVisits (scope ++ [groups]) scales axes ++
        marksVisits (scope ++ [groups]) 0 marks ++ marksVisits scope (groups + 1) rest) := by
  have hg := Mark.isGroup_of_group hm
  obtain ⟨body, _, _, _, _, _, _, _, _⟩ := m
  subst hm
  simp [marksVisits, Mark.visits, hg]

section

variable {ε σ : Type} (visit : Visitor ε σ)

theorem walkScope_eq_foldlM (scope : Scope) (state : σ) (scales : List Scale) (axes : List Axis) :
    (walkScales visit scope state scales >>= fun state => walkAxes visit scope state axes) =
      (scopeVisits scope scales axes).foldlM visit state := by
  simp [walkScales, walkAxes, scopeVisits, List.foldlM_map]

theorem walkMarks_eq_foldlM (scope : Scope) (groups : Nat) (state : σ) (marks : List Mark) :
    walkMarks visit scope groups state marks =
      (marksVisits scope groups marks).foldlM visit state := by
  induction marks using marks_induction generalizing scope groups state with
  | nil => rfl
  | plain m type h rest hm ih =>
    have hg := Mark.isGroup_of_plain hm
    rw [marksVisits_plain scope groups rest hm]
    obtain ⟨body, _, _, _, _, _, _, _, _⟩ := m
    simp only [walkMarks, walkMark, hg, List.foldlM_cons, ih]
    simp
  | group m scales axes marks rest hm ihMarks ihRest =>
    have hg := Mark.isGroup_of_group hm
    rw [marksVisits_group scope groups rest hm]
    obtain ⟨body, _, _, _, _, _, _, _, _⟩ := m
    subst hm
    simp only [walkMarks, walkMark, walkBody, hg, ihMarks, ihRest, List.foldlM_cons,
      List.foldlM_append, ← walkScope_eq_foldlM]
    simp

end

/-! ## Top theorem -/

/-- A walk is the run of the visitor over the visits. -/
theorem Visualization.walk_eq_foldlM {ε σ : Type} (visit : Visitor ε σ) (state : σ)
    (v : Visualization) : v.walk visit state = v.visits.foldlM visit state := by
  simp only [walk, visits, walkMarks_eq_foldlM, List.foldlM_cons, List.foldlM_append,
    ← walkScope_eq_foldlM, List.foldlM_map]
  simp

end ChartSpec
