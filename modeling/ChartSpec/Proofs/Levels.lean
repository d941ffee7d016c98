import ChartSpec.Proofs.Scoping

/-!
# Levels

A visualization and every mark in it are levels of a chart: they may hold scales, axes and marks.
A level stands inside others (`Level.Within`), and whatever is gathered from the whole chart, level
by level, is what some level has of its own (`Level.gathered_iff`).

So nothing dangles if on every level the data sets that are referred to are included, and the
scales that are used are defined on this level or around it
(`Visualization.danglingReferences_eq_nil_iff`).
-/

namespace ChartSpec

/-- What a visualization or a mark holds. -/
structure Level where
  scales : List Scale := []
  axes : List Axis := []
  marks : List Mark := []

/-- What a mark holds, nothing unless it is a group. -/
def Mark.level (m : Mark) : Level :=
  match m.body with
  | .plain _ _ => {}
  | .group scales axes marks => { scales, axes, marks }

def Visualization.level (v : Visualization) : Level :=
  { scales := v.scales, axes := v.axes, marks := v.marks }

namespace Level

/-- The levels of a chart, each with those around it, the innermost one first. -/
inductive Within (root : Level) : Level → List Level → Prop where
  | root : Within root root []
  | inside {l : Level} {outer : List Level} {m : Mark} (h : Within root l outer)
    (hm : m ∈ l.marks) : Within root m.level (l :: outer)

/-- The data sets that the scales and the marks of a level refer to. -/
def ownDataNames (l : Level) : List String :=
  l.scales.flatMap Scale.dataNames ++ l.marks.flatMap Mark.dataNames

/-- The scales that the axes and the marks of a level use. -/
def ownScaleNames (l : Level) : List String :=
  l.axes.flatMap Axis.scaleNames ++ l.marks.flatMap Mark.scaleNames

/-- The data sets that a level and all levels inside it refer to. -/
def dataNames (l : Level) : List String :=
  l.scales.flatMap Scale.dataNames ++ marksDataNames l.marks

/-- The uses of scales on a level and on all levels inside it. -/
def scaleUses (l : Level) (scopes : List (List Scale)) : List ScaleUse :=
  (l.axes.flatMap fun a => usesIn scopes a.scaleNames) ++ marksScaleUses scopes l.marks

/-- The scales of a level and of those around it, the outermost first. -/
def scopes (l : Level) (outer : List Level) : List (List Scale) :=
  (l :: outer).reverse.map Level.scales

/-! ## Lemmas -/

/-- What holds of a level if it holds of all levels directly inside it, holds of every level. -/
theorem induction {P : Level → Prop} (h : ∀ l, (∀ m ∈ l.marks, P m.level) → P l) (l : Level) :
    P l := by
  have hmarks : ∀ marks : List Mark, ∀ m ∈ marks, P m.level := by
    intro marks
    induction marks using marks_induction with
    | nil => simp
    | plain m type hplain rest hbody ih =>
      refine List.forall_mem_cons.2 ⟨?_, ih⟩
      rw [Mark.level, hbody]
      exact h {} (by simp)
    | group m scales axes marks rest hbody ihMarks ihRest =>
      refine List.forall_mem_cons.2 ⟨?_, ihRest⟩
      rw [Mark.level, hbody]
      exact h { scales, axes, marks } ihMarks
  exact h l (hmarks l.marks)

/-- What is gathered from a level and from those directly inside it is what some level has of its
own. -/
theorem gathered_iff {α : Type} {own gathered : Level → List Level → List α}
    (h : ∀ l outer x, x ∈ gathered l outer ↔
      x ∈ own l outer ∨ ∃ m ∈ l.marks, x ∈ gathered m.level (l :: outer)) {root : Level} {x : α} :
    x ∈ gathered root [] ↔ ∃ l outer, root.Within l outer ∧ x ∈ own l outer := by
  constructor
  · have hdeep : ∀ l outer, root.Within l outer → x ∈ gathered l outer →
        ∃ l outer, root.Within l outer ∧ x ∈ own l outer := by
      intro l
      induction l using induction with
      | h l ih =>
        intro outer hl hx
        rcases (h l outer x).1 hx with hown | ⟨m, hm, hx⟩
        · exact ⟨l, outer, hl, hown⟩
        · exact ih m hm (l :: outer) (.inside hl hm) hx
    exact hdeep root [] .root
  · rintro ⟨l, outer, hl, hown⟩
    -- What is gathered inside is gathered outside as well.
    have hout : x ∈ gathered l outer → x ∈ gathered root [] := by
      clear hown
      induction hl with
      | root => exact id
      | @inside l outer m _ hm ih => exact fun hx => ih ((h l outer x).2 (.inr ⟨m, hm, hx⟩))
    exact hout ((h l outer x).2 (.inl hown))

end Level

/-! ### Data sets and scales -/

theorem marksDataNames_cons (m : Mark) (rest : List Mark) :
    marksDataNames (m :: rest) = m.dataNames ++ m.level.dataNames ++ marksDataNames rest := by
  cases hm : m.body with
  | plain type h =>
    rw [marksDataNames_plain rest hm]
    simp [Mark.level, hm, Level.dataNames, marksDataNames]
  | group scales axes marks =>
    rw [marksDataNames_group rest hm]
    simp [Mark.level, hm, Level.dataNames]

theorem marksScaleUses_cons (scopes : List (List Scale)) (m : Mark) (rest : List Mark) :
    marksScaleUses scopes (m :: rest) = usesIn scopes m.scaleNames ++
      m.level.scaleUses (scopes ++ [m.level.scales]) ++ marksScaleUses scopes rest := by
  cases hm : m.body with
  | plain type h =>
    rw [marksScaleUses_plain scopes rest hm]
    simp [Mark.level, hm, Level.scaleUses, marksScaleUses]
  | group scales axes marks =>
    rw [marksScaleUses_group scopes rest hm]
    simp [Mark.level, hm, Level.scaleUses]

theorem mem_marksDataNames {marks : List Mark} {name : String} :
    name ∈ marksDataNames marks ↔
      ∃ m ∈ marks, name ∈ m.dataNames ∨ name ∈ m.level.dataNames := by
  induction marks with
  | nil => simp [marksDataNames]
  | cons m rest ih => simp [marksDataNames_cons, ih, or_assoc]

theorem mem_marksScaleUses {marks : List Mark} {scopes : List (List Scale)} {u : ScaleUse} :
    u ∈ marksScaleUses scopes marks ↔ ∃ m ∈ marks, u ∈ usesIn scopes m.scaleNames ∨
      u ∈ m.level.scaleUses (scopes ++ [m.level.scales]) := by
  induction marks with
  | nil => simp [marksScaleUses]
  | cons m rest ih => simp [marksScaleUses_cons, ih, or_assoc]

namespace Level

theorem mem_dataNames {l : Level} {name : String} :
    name ∈ l.dataNames ↔ name ∈ l.ownDataNames ∨ ∃ m ∈ l.marks, name ∈ m.level.dataNames := by
  rw [dataNames, ownDataNames, List.mem_append, List.mem_append, mem_marksDataNames]
  simp only [List.mem_flatMap, and_or_left, exists_or, or_assoc]

theorem mem_scaleUses {l : Level} {outer : List Level} {u : ScaleUse} :
    u ∈ l.scaleUses (l.scopes outer) ↔ u ∈ usesIn (l.scopes outer) l.ownScaleNames ∨
      ∃ m ∈ l.marks, u ∈ m.level.scaleUses (m.level.scopes (l :: outer)) := by
  have hscopes : ∀ m : Mark, m.level.scopes (l :: outer) = l.scopes outer ++ [m.level.scales] := by
    intro m
    simp [scopes]
  have hown : usesIn (l.scopes outer) l.ownScaleNames =
      (l.axes.flatMap fun a => usesIn (l.scopes outer) a.scaleNames) ++
        l.marks.flatMap fun m => usesIn (l.scopes outer) m.scaleNames := by
    simp [usesIn, ownScaleNames, List.map_flatMap]
  rw [scaleUses, hown, List.mem_append, List.mem_append, mem_marksScaleUses]
  simp only [hscopes, List.mem_flatMap, and_or_left, exists_or, or_assoc]

theorem mem_scopes {l : Level} {outer : List Level} {scales : List Scale} :
    scales ∈ l.scopes outer ↔ ∃ around ∈ l :: outer, around.scales = scales := by
  rw [scopes, List.mem_map]
  simp only [List.mem_reverse]

end Level

namespace Visualization

variable {v : Visualization}

theorem mem_dataNames_iff {name : String} :
    name ∈ v.dataNames ↔ name ∈ v.data.flatMap Data.dataNames ∨
      ∃ l outer, v.level.Within l outer ∧ name ∈ l.ownDataNames := by
  have hsplit : v.dataNames = v.data.flatMap Data.dataNames ++ v.level.dataNames :=
    List.append_assoc _ _ _
  rw [hsplit, List.mem_append]
  exact or_congr_right (@Level.gathered_iff _ (fun l _ => l.ownDataNames) (fun l _ => l.dataNames)
    (fun _ _ _ => Level.mem_dataNames) v.level name)

theorem mem_scaleUses_iff {u : ScaleUse} :
    u ∈ v.scaleUses ↔ ∃ l outer, v.level.Within l outer ∧
      u ∈ usesIn (l.scopes outer) l.ownScaleNames :=
  @Level.gathered_iff _ (fun l outer => usesIn (l.scopes outer) l.ownScaleNames)
    (fun l outer => l.scaleUses (l.scopes outer)) (fun _ _ _ => Level.mem_scaleUses) v.level u

end Visualization

/-! ## Top theorem -/

/-- Nothing dangles in a visualization exactly if its data sets refer to data sets that it
includes, and if on every level this is so and each scale that is used is one of the level or of
one around it. -/
theorem Visualization.danglingReferences_eq_nil_iff (v : Visualization) :
    v.danglingReferences = .ok [] ↔
      (∀ name ∈ v.data.flatMap Data.dataNames, name ∈ v.data.map Data.name) ∧
      ∀ l outer, v.level.Within l outer →
        (∀ name ∈ l.ownDataNames, name ∈ v.data.map Data.name) ∧
        ∀ name ∈ l.ownScaleNames, ∃ around ∈ l :: outer, name ∈ around.scales.map Scale.name := by
  have hdata : v.missingData = [] ↔ ∀ name ∈ v.dataNames, name ∈ v.data.map Data.name := by
    simp [List.eq_nil_iff_forall_not_mem, mem_missingData]
  have hscales : v.missingScales = [] ↔
      ∀ u ∈ v.scaleUses, ∃ scales ∈ u.scopes, u.name ∈ scales.map Scale.name := by
    simp [List.eq_nil_iff_forall_not_mem, mem_missingScales, @forall_comm String]
  rw [danglingReferences_eq, Except.ok.injEq, List.append_eq_nil_iff, List.map_eq_nil_iff,
    List.map_eq_nil_iff, hdata, hscales]
  constructor
  · rintro ⟨hnames, huses⟩
    refine ⟨fun name hname => hnames name (mem_dataNames_iff.2 (.inl hname)), ?_⟩
    intro l outer hl
    refine ⟨fun name hname => hnames name (mem_dataNames_iff.2 (.inr ⟨l, outer, hl, hname⟩)), ?_⟩
    intro name hname
    obtain ⟨scales, hscales, hdefined⟩ := huses ⟨name, l.scopes outer⟩
      (mem_scaleUses_iff.2 ⟨l, outer, hl, mem_usesIn.2 ⟨hname, rfl⟩⟩)
    obtain ⟨around, haround, rfl⟩ := Level.mem_scopes.1 hscales
    exact ⟨around, haround, hdefined⟩
  · rintro ⟨hincluded, hlevels⟩
    refine ⟨fun name hname => ?_, fun u hu => ?_⟩
    · rcases mem_dataNames_iff.1 hname with hname | ⟨l, outer, hl, hname⟩
      · exact hincluded name hname
      · exact (hlevels l outer hl).1 name hname
    · obtain ⟨l, outer, hl, huse⟩ := mem_scaleUses_iff.1 hu
      obtain ⟨hname, hscopes⟩ := mem_usesIn.1 huse
      obtain ⟨around, haround, hdefined⟩ := (hlevels l outer hl).2 u.name hname
      exact ⟨around.scales, hscopes ▸ Level.mem_scopes.2 ⟨around, haround, rfl⟩, hdefined⟩

end ChartSpec
