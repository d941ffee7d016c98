import ChartSpec.Proofs.Walk.Places

/-!
# Scopes of groups

The scope of a group is the scope of the level that it stands on and its ordinal among the groups
there (`Level.Holds.opens`).  Ordinals tell the groups of a level apart, so scopes are as good as
addresses: one begins with another exactly where the addresses do (`Level.Holds.prefix_iff`).

    group      address    scope
    a          0          0
    b          2          1         a plain mark stands between them
    c in b     2.0        1.0
-/

namespace ChartSpec

/-- The scope that a visit comes with. -/
def Visit.scope : Visit → Scope
  | .visualization _ => []
  | .data _ scope => scope
  | .scale _ scope => scope
  | .axis _ scope => scope
  | .mark _ scope => scope
  | .group _ scope => scope

/-- The scope that a visit of something that stands on a level comes with.  A group opens one. -/
def Visit.scopeOn (l : Level) (scope : Scope) (i : Nat) : Visit → Scope
  | .group _ _ => scope ++ [l.ordinal i]
  | _ => scope

/-- The level that the visualization or a group at an address opens, with its scope. -/
inductive Visualization.Opens (v : Visualization) : Address → Level → Scope → Prop
  | top : Opens v [] v.level []
  | group {a : Address} {m : Mark} {scope : Scope} (h : v.Holds a (.group m scope)) :
      Opens v a m.level scope

/-! ## Lemmas -/

/-! ### Ordinals -/

namespace Level

variable {l : Level} {i j : Nat} {m n : Mark}

theorem ordinal_lt (hi : l.marks[i]? = some m) (hm : m.isGroup = true) (hij : i < j) :
    l.ordinal i < l.ordinal j := by
  have htake : l.ordinal (i + 1) = l.ordinal i + 1 := by
    simp [ordinal, List.take_add_one, hi, hm]
  have hle : l.ordinal (i + 1) ≤ l.ordinal j :=
    (List.take_prefix_take_left hij).sublist.countP_le
  omega

theorem ordinal_inj (hi : l.marks[i]? = some m) (hm : m.isGroup = true)
    (hj : l.marks[j]? = some n) (hn : n.isGroup = true) : l.ordinal i = l.ordinal j ↔ i = j := by
  constructor
  · intro h
    rcases Nat.lt_trichotomy i j with hlt | heq | hlt
    · exact absurd h (Nat.ne_of_lt (ordinal_lt hi hm hlt))
    · exact heq
    · exact absurd h.symm (Nat.ne_of_lt (ordinal_lt hj hn hlt))
  · rintro rfl
    rfl

/-- The ordinal of a group is less than the number of groups on its level. -/
theorem ordinal_lt_countP (hi : l.marks[i]? = some m) (hm : m.isGroup = true) :
    l.ordinal i < l.marks.countP Mark.isGroup := by
  have hlt := ordinal_lt hi hm (List.getElem?_eq_some_iff.1 hi).1
  rwa [ordinal, ordinal, List.take_length] at hlt

/-! ### Scopes and addresses -/

namespace Holds

variable {scope s t : Scope} {a b : Address} {x : Visit}

/-- What stands inside a level comes with a scope that goes on from the scope of the level. -/
theorem prefix_scope (h : l.Holds scope a x) : scope <+: x.scope := by
  induction h with
  | scale | axis | mark => exact List.prefix_rfl
  | group => exact List.prefix_append _ _
  | inside _ _ _ ih => exact (List.prefix_append _ _).trans ih

theorem length_lt (h : l.Holds scope a (.group m s)) : scope.length < s.length := by
  cases h with
  | group => simp
  | inside _ _ hx =>
    have hle := hx.prefix_scope.length_le
    simp only [List.length_append, List.length_singleton, Visit.scope] at hle
    omega

/-- Scopes that go on from two ordinals differ. -/
theorem eq_of_prefixes {k k' : Nat} (hs : scope ++ [k] <+: t) (ht : scope ++ [k'] <+: t) :
    k = k' := by
  have hsame := List.prefix_of_prefix_length_le hs ht (by simp)
  simpa using hsame

/-- The scope of a group begins with that of another exactly where the addresses do. -/
theorem prefix_iff (ha : l.Holds scope a (.group m s)) (hb : l.Holds scope b (.group n t)) :
    a <+: b ↔ s <+: t := by
  generalize hx : Visit.group m s = x at ha
  induction ha generalizing b t with
  | scale | axis | mark => cases hx
  | @group l scope i m hi hm =>
    cases hx
    -- Either both stand at one mark, or their ordinals differ.
    have hmark : ∀ j n' b, l.marks[j]? = some n' → n'.isGroup = true →
        scope ++ [l.ordinal j] <+: t →
        ([.mark i] <+: Position.mark j :: b ↔ scope ++ [l.ordinal i] <+: t) := by
      intro j n' b hj hn hopen
      rw [List.cons_prefix_cons, Position.mark.injEq, ← ordinal_inj hi hm hj hn]
      constructor
      · rintro ⟨heq, -⟩
        rw [heq]
        exact hopen
      · exact fun hs => ⟨eq_of_prefixes hs hopen, List.nil_prefix⟩
    cases hb with
    | group hj hn => exact hmark _ _ [] hj hn List.prefix_rfl
    | inside hj hn hinside => exact hmark _ _ _ hj hn hinside.prefix_scope
  | @inside l scope i m a x hi hm ha ih =>
    subst hx
    cases hb with
    | @group _ _ j n hj hn =>
      constructor
      · intro h
        obtain ⟨-, h⟩ := List.cons_prefix_cons.1 h
        exact absurd (List.prefix_nil.1 h) ha.ne_nil
      · intro h
        have hle := h.length_le
        have hlt := ha.length_lt
        simp only [List.length_append, List.length_singleton] at hle hlt
        omega
    | @inside _ _ j n' b _ hj hn hinside =>
      by_cases hij : i = j
      · subst hij
        obtain rfl : m = n' := Option.some.inj (hi.symm.trans hj)
        rw [List.cons_prefix_cons, ih hinside rfl]
        simp
      · constructor
        · intro h
          obtain ⟨heq, -⟩ := List.cons_prefix_cons.1 h
          exact absurd (Position.mark.inj heq) hij
        · intro h
          have hordinal := eq_of_prefixes (ha.prefix_scope.trans h) hinside.prefix_scope
          exact absurd ((ordinal_inj hi hm hj hn).1 hordinal) hij

/-- Whatever has an address stands directly on the level that is opened in front of it. -/
theorem opens {p : Position} (h : l.Holds scope (a ++ [p]) x) :
    (a = [] ∧ l.Holds scope [p] x) ∨
      ∃ m s, l.Holds scope a (.group m s) ∧ m.level.Holds s [p] x := by
  induction a generalizing l scope with
  | nil => exact .inl ⟨rfl, h⟩
  | cons q a ih =>
    cases hsplit : a ++ [p] with
    | nil => simp at hsplit
    | cons r rest =>
      rw [List.cons_append, hsplit] at h
      cases h with
      | inside hi hm hx =>
        rw [← hsplit] at hx
        rcases ih hx with ⟨rfl, hx⟩ | ⟨m', s, hgroup, hx⟩
        · exact .inr ⟨_, _, .group hi hm, hx⟩
        · exact .inr ⟨m', s, .inside hi hm hgroup, hx⟩

/-- What stands directly on a level comes with its scope, a group with the scope that it opens. -/
theorem scope_eq {p : Position} (h : l.Holds scope [p] x) :
    x.scope = x.scopeOn l scope p.index := by
  cases h with
  | inside _ _ hx => exact absurd rfl hx.ne_nil
  | scale | axis | mark | group => rfl

/-- Where few groups stand side by side, ordinals are small. -/
theorem lt_of_mem_scope {root : Level} {outer : List Level} {bound : Nat}
    (hbound : ∀ l outer, root.Within l outer → l.marks.countP Mark.isGroup < bound)
    (hl : root.Within l outer) (hscope : ∀ k ∈ scope, k < bound) (h : l.Holds scope a x) :
    ∀ k ∈ x.scope, k < bound := by
  induction h generalizing outer with
  | scale | axis | mark => exact hscope
  | group hi hm =>
    have hlt := Nat.lt_trans (ordinal_lt_countP hi hm) (hbound _ _ hl)
    exact List.forall_mem_append.2 ⟨hscope, List.forall_mem_singleton.2 hlt⟩
  | inside hi hm _ ih =>
    have hlt := Nat.lt_trans (ordinal_lt_countP hi hm) (hbound _ _ hl)
    exact ih (.inside hl (List.mem_of_getElem? hi))
      (List.forall_mem_append.2 ⟨hscope, List.forall_mem_singleton.2 hlt⟩)

end Holds

end Level

namespace Visualization

variable {v : Visualization} {a b : Address} {m n : Mark} {s t : Scope} {x : Visit}

theorem Holds.level_of_group (h : v.Holds a (.group m s)) : v.level.Holds [] a (.group m s) := by
  cases h with
  | level h => exact h

theorem Holds.prefix_iff (ha : v.Holds a (.group m s)) (hb : v.Holds b (.group n t)) :
    a <+: b ↔ s <+: t :=
  ha.level_of_group.prefix_iff hb.level_of_group

/-- The scope of a group is unlike that of all others. -/
theorem Holds.eq_iff (ha : v.Holds a (.group m s)) (hb : v.Holds b (.group n t)) :
    a = b ↔ s = t := by
  constructor
  · intro h
    exact ((ha.prefix_iff hb).1 (h ▸ List.prefix_rfl)).eq_of_length_le
      ((hb.prefix_iff ha).1 (h ▸ List.prefix_rfl)).length_le
  · intro h
    exact ((ha.prefix_iff hb).2 (h ▸ List.prefix_rfl)).eq_of_length_le
      ((hb.prefix_iff ha).2 (h ▸ List.prefix_rfl)).length_le

theorem Holds.exists_opens {p : Position} (h : v.Holds (a ++ [p]) x) :
    ∃ l scope, v.Opens a l scope ∧ x.scope = x.scopeOn l scope p.index := by
  generalize haddress : a ++ [p] = address at h
  cases h with
  | root => simp at haddress
  | data =>
    obtain rfl : a = [] := by simpa using congrArg List.length haddress
    exact ⟨v.level, [], .top, rfl⟩
  | level h =>
    subst haddress
    rcases h.opens with ⟨rfl, hx⟩ | ⟨m, scope, hgroup, hx⟩
    · exact ⟨v.level, [], .top, hx.scope_eq⟩
    · exact ⟨m.level, scope, .group (.level hgroup), hx.scope_eq⟩

end Visualization

end ChartSpec
