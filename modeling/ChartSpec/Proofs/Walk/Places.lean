import ChartSpec.Proofs.Enumeration
import ChartSpec.Proofs.Levels

/-!
# Places in a chart

Everything in a chart has an address: the positions of the groups around it, the outermost first,
and its own position, each counted among the things of its kind on its level.  On a level the data
sets come first, then the scales, the axes and the marks.

    data              0     1
    scale             0
    mark              0     1 (a group)
    scale in it             1.0

The visits of a walk are what stands at the addresses, in their order, with the scope of the level
that it stands on; a group comes with the scope that it opens (`Visualization.enumerates_visits`).
-/

namespace ChartSpec

/-- A position among the things of one kind on a level. -/
inductive Position where
  | data (i : Nat)
  | scale (i : Nat)
  | axis (i : Nat)
  | mark (i : Nat)
  deriving DecidableEq

namespace Position

def rank : Position → Nat
  | data _ => 0
  | scale _ => 1
  | axis _ => 2
  | mark _ => 3

def index : Position → Nat
  | data i => i
  | scale i => i
  | axis i => i
  | mark i => i

/-- By kinds, and by numbers within a kind. -/
instance : LT Position := ⟨fun p q => p.rank < q.rank ∨ p.rank = q.rank ∧ p.index < q.index⟩

end Position

/-- The positions of the groups around something, the outermost first, and its own. -/
abbrev Address := List Position

/-- How many groups come before a mark on its level. -/
def Level.ordinal (l : Level) (i : Nat) : Nat := (l.marks.take i).countP Mark.isGroup

/-- What stands on a level and inside it, as a walk comes to it if the level has a scope. -/
inductive Level.Holds : Level → Scope → Address → Visit → Prop
  | scale {l : Level} {scope : Scope} {i : Nat} {s : Scale} (h : l.scales[i]? = some s) :
      Holds l scope [.scale i] (.scale s scope)
  | axis {l : Level} {scope : Scope} {i : Nat} {a : Axis} (h : l.axes[i]? = some a) :
      Holds l scope [.axis i] (.axis a scope)
  | mark {l : Level} {scope : Scope} {i : Nat} {m : Mark} (h : l.marks[i]? = some m)
      (hplain : m.isGroup = false) : Holds l scope [.mark i] (.mark m scope)
  | group {l : Level} {scope : Scope} {i : Nat} {m : Mark} (h : l.marks[i]? = some m)
      (hgroup : m.isGroup = true) : Holds l scope [.mark i] (.group m (scope ++ [l.ordinal i]))
  | inside {l : Level} {scope : Scope} {i : Nat} {m : Mark} {a : Address} {x : Visit}
      (h : l.marks[i]? = some m) (hgroup : m.isGroup = true)
      (hx : Holds m.level (scope ++ [l.ordinal i]) a x) : Holds l scope (.mark i :: a) x

/-- What stands in a visualization, itself at the root. -/
inductive Visualization.Holds (v : Visualization) : Address → Visit → Prop
  | root : Holds v [] (.visualization v)
  | data {i : Nat} {d : Data} (h : v.data[i]? = some d) : Holds v [.data i] (.data d [])
  | level {a : Address} {x : Visit} (h : v.level.Holds [] a x) : Holds v a x

/-- What stands at a mark of a level and inside it, by the address behind the mark. -/
def Level.HoldsAtMark (l : Level) (scope : Scope) (i : Nat) (m : Mark) (below : Address)
    (x : Visit) : Prop :=
  (below = [] ∧ x = if m.isGroup then .group m (scope ++ [l.ordinal i]) else .mark m scope) ∨
    (m.isGroup = true ∧ m.level.Holds (scope ++ [l.ordinal i]) below x)

/-- The visits of a level and of all levels inside it. -/
def Level.visits (scope : Scope) (l : Level) : List Visit :=
  scopeVisits scope l.scales l.axes ++ marksVisits scope 0 l.marks

/-! ## Lemmas -/

/-! ### Addresses -/

theorem Level.Holds.ne_nil {l : Level} {scope : Scope} {a : Address} {x : Visit}
    (h : l.Holds scope a x) : a ≠ [] := by
  cases h <;> simp

/-! ### Visits of marks -/

theorem Mark.visits_of_plain {m : Mark} (h : m.isGroup = false) (scope : Scope) (ordinal : Nat) :
    m.visits scope ordinal = [.mark m scope] := by
  obtain ⟨body, _, _, _, _, _, _, _, _⟩ := m
  cases body with
  | plain type hplain => rfl
  | group scales axes marks => cases h

theorem Mark.visits_of_group {m : Mark} (h : m.isGroup = true) (scope : Scope) (ordinal : Nat) :
    m.visits scope ordinal =
      .group m (scope ++ [ordinal]) :: m.level.visits (scope ++ [ordinal]) := by
  obtain ⟨body, _, _, _, _, _, _, _, _⟩ := m
  cases body with
  | plain type hplain => rw [isGroup_of_plain rfl] at h; cases h
  | group scales axes marks => rfl

/-- Each mark is visited with the number of groups before it. -/
theorem marksVisits_eq_flatten (scope : Scope) (groups : Nat) (marks : List Mark) :
    marksVisits scope groups marks = (marks.mapIdx fun i m =>
      m.visits scope (groups + (marks.take i).countP Mark.isGroup)).flatten := by
  induction marks generalizing groups with
  | nil => rfl
  | cons m rest ih =>
    rw [marksVisits, ih, List.mapIdx_cons, List.flatten_cons]
    cases hm : m.isGroup <;>
      simp [hm, Nat.add_comm, Nat.add_left_comm]

/-! ### Levels -/

namespace Level

variable {scope : Scope}

/-- The visits of the marks of a level, those of the levels inside it known. -/
theorem enumerates_marks {l : Level} (ih : ∀ m ∈ l.marks, ∀ scope,
      Enumerates (m.level.Holds scope) (m.level.visits scope)) :
    Enumerates (fun a x => ∃ i m below, l.marks[i]? = some m ∧ a = .mark i :: below ∧
      l.HoldsAtMark scope i m below x) (marksVisits scope 0 l.marks) := by
  have hblocks := marksVisits_eq_flatten scope 0 l.marks
  simp only [Nat.zero_add] at hblocks
  rw [hblocks]
  refine Enumerates.siblings Position.mark (fun h => Or.inr ⟨rfl, h⟩) l.marks fun i m hm => ?_
  cases hgroup : m.isGroup with
  | false =>
    rw [Mark.visits_of_plain hgroup]
    exact (Enumerates.singleton _).congr fun b x => by simp [HoldsAtMark, hgroup]
  | true =>
    rw [Mark.visits_of_group hgroup]
    have hinside := ih m (List.mem_of_getElem? hm) (scope ++ [l.ordinal i])
    exact (hinside.cons _ fun b x => Holds.ne_nil).congr fun b x => by
      simp [HoldsAtMark, hgroup, ordinal]

theorem holds_iff {l : Level} {a : Address} {x : Visit} :
    l.Holds scope a x ↔
      ((∃ i s, l.scales[i]? = some s ∧ a = [.scale i] ∧ x = .scale s scope) ∨
        (∃ i s, l.axes[i]? = some s ∧ a = [.axis i] ∧ x = .axis s scope)) ∨
      ∃ i m below, l.marks[i]? = some m ∧ a = .mark i :: below ∧
        l.HoldsAtMark scope i m below x := by
  constructor
  · intro h
    cases h with
    | scale h => exact .inl (.inl ⟨_, _, h, rfl, rfl⟩)
    | axis h => exact .inl (.inr ⟨_, _, h, rfl, rfl⟩)
    | mark h hplain => exact .inr ⟨_, _, _, h, rfl, .inl ⟨rfl, by simp [hplain]⟩⟩
    | group h hgroup => exact .inr ⟨_, _, _, h, rfl, .inl ⟨rfl, by simp [hgroup]⟩⟩
    | inside h hgroup hx => exact .inr ⟨_, _, _, h, rfl, .inr ⟨hgroup, hx⟩⟩
  · rintro ((⟨i, s, h, rfl, rfl⟩ | ⟨i, s, h, rfl, rfl⟩) |
      ⟨i, m, b, h, rfl, ⟨rfl, rfl⟩ | ⟨hgroup, hx⟩⟩)
    · exact .scale h
    · exact .axis h
    · cases hgroup : m.isGroup with
      | false => exact .mark h hgroup
      | true => exact .group h hgroup
    · exact .inside h hgroup hx

theorem enumerates_visits (l : Level) (scope : Scope) :
    Enumerates (l.Holds scope) (l.visits scope) := by
  induction l using Level.induction generalizing scope with
  | h l ih =>
    have hscales : Enumerates (fun (a : Address) (x : Visit) => ∃ i s, l.scales[i]? = some s ∧
        a = [.scale i] ∧ x = .scale s scope) (l.scales.map (.scale · scope)) :=
      Enumerates.map Position.scale (fun h => Or.inr ⟨rfl, h⟩) _ l.scales
    have haxes : Enumerates (fun (a : Address) (x : Visit) => ∃ i s, l.axes[i]? = some s ∧
        a = [.axis i] ∧ x = .axis s scope) (l.axes.map (.axis · scope)) :=
      Enumerates.map Position.axis (fun h => Or.inr ⟨rfl, h⟩) _ l.axes
    have hboth := hscales.append haxes <| by
      rintro _ _ _ _ ⟨i, s, -, rfl, -⟩ ⟨j, t, -, rfl, -⟩
      exact List.Lex.rel (Or.inl (by simp [Position.rank]))
    refine (hboth.append (enumerates_marks ih) ?_).congr fun a x => holds_iff.symm
    rintro _ _ _ _ (⟨i, s, -, rfl, -⟩ | ⟨i, s, -, rfl, -⟩) ⟨j, m, b, -, rfl, -⟩
    · exact List.Lex.rel (Or.inl (by simp [Position.rank]))
    · exact List.Lex.rel (Or.inl (by simp [Position.rank]))

end Level

/-! ## Top theorem -/

/-- A walk visits what stands in a visualization, each thing once and in the order of the
addresses. -/
theorem Visualization.enumerates_visits (v : Visualization) : Enumerates v.Holds v.visits := by
  have hdata : Enumerates (fun (a : Address) (x : Visit) => ∃ i d, v.data[i]? = some d ∧
      a = [.data i] ∧ x = .data d []) (v.data.map (.data · [])) :=
    Enumerates.map Position.data (fun h => Or.inr ⟨rfl, h⟩) _ v.data
  have hbelow := hdata.append (v.level.enumerates_visits []) <| by
    rintro _ _ _ _ ⟨i, d, -, rfl, -⟩ h
    cases h <;> exact List.Lex.rel (Or.inl (by simp [Position.rank]))
  have hall := hbelow.cons (.visualization v) <| by
    rintro _ _ (⟨i, d, -, rfl, -⟩ | h)
    · simp
    · exact h.ne_nil
  rw [visits, List.append_assoc]
  refine hall.congr fun a x => ?_
  constructor
  · rintro (⟨rfl, rfl⟩ | ⟨i, d, h, rfl, rfl⟩ | h)
    · exact .root
    · exact .data h
    · exact .level h
  · rintro (_ | h | h)
    · exact .inl ⟨rfl, rfl⟩
    · exact .inr (.inl ⟨_, _, h, rfl, rfl⟩)
    · exact .inr (.inr h)

end ChartSpec
