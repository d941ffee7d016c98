import ChartSpec.Proofs.Walk.Scopes

/-!
# Walks that stop

A visitor may stop a walk.  What has been visited by then is noted beside the state of the visitor,
the visit that stops the walk included (`noting`).  It is a beginning of the visits of the chart,
which are the same for all visitors: everything once, in the order of the addresses
(`Visualization.walk_once`).
-/

namespace ChartSpec

variable {ε σ : Type}

/-- Also notes what is visited, whether it succeeds or not. -/
def noting (visit : Visitor ε σ) : Visitor (ε × List Visit) (σ × List Visit) :=
  fun (state, made) x =>
    match visit state x with
    | .ok next => .ok (next, made ++ [x])
    | .error e => .error (e, made ++ [x])

/-! ## Lemmas -/

theorem noting_of_ok {visit : Visitor ε σ} {state next : σ} {x : Visit}
    (h : visit state x = .ok next) (made : List Visit) :
    noting visit (state, made) x = .ok (next, made ++ [x]) := by
  simp only [noting, h]

theorem noting_of_error {visit : Visitor ε σ} {state : σ} {x : Visit} {e : ε}
    (h : visit state x = .error e) (made : List Visit) :
    noting visit (state, made) x = .error (e, made ++ [x]) := by
  simp only [noting, h]

/-- A visitor comes to the end of the visits, or stops at the first that fails. -/
theorem foldlM_noting_cases (visit : Visitor ε σ) (state : σ) (made visits : List Visit) :
    (∃ last, visits.foldlM visit state = .ok last ∧
      visits.foldlM (noting visit) (state, made) = .ok (last, made ++ visits)) ∨
    ∃ before x after reached e, visits = before ++ x :: after ∧
      before.foldlM visit state = .ok reached ∧ visit reached x = .error e ∧
      visits.foldlM visit state = .error e ∧
      visits.foldlM (noting visit) (state, made) = .error (e, made ++ before ++ [x]) := by
  induction visits generalizing state made with
  | nil =>
    refine .inl ⟨state, rfl, ?_⟩
    rw [List.append_nil]
    rfl
  | cons y rest ih =>
    simp only [List.foldlM_cons]
    cases hy : visit state y with
    | error e =>
      rw [noting_of_error hy]
      exact .inr ⟨[], y, rest, state, e, rfl, rfl, hy, rfl, by rw [List.append_nil]; rfl⟩
    | ok next =>
      rw [noting_of_ok hy]
      rcases ih next (made ++ [y]) with ⟨last, hrun, hnoted⟩ |
        ⟨before, x, after, reached, e, rfl, hbefore, hx, hrun, hnoted⟩
      · rw [List.append_assoc, List.singleton_append] at hnoted
        exact .inl ⟨last, hrun, hnoted⟩
      · refine .inr ⟨y :: before, x, after, reached, e, rfl, ?_, hx, hrun, ?_⟩
        · rw [List.foldlM_cons, hy]
          exact hbefore
        · rw [List.append_assoc made [y]] at hnoted
          exact hnoted

/-- The contents of a mark are visited like the level that it holds. -/
theorem walkBody_eq_foldlM (visit : Visitor ε σ) (scope : Scope) (state : σ) (m : Mark) :
    walkBody visit scope state m.body = (m.level.visits scope).foldlM visit state := by
  rw [Mark.level]
  cases m.body with
  | plain type h => rfl
  | group scales axes marks =>
    simp only [walkBody, Level.visits, List.foldlM_append, ← walkScope_eq_foldlM,
      walkMarks_eq_foldlM, bind_assoc]

/-! ## Top theorem -/

/-- The visits of a chart are all that stands in it, each thing once: the data sets, then of each
level the scales, the axes and the marks, a group before its contents.  A walk makes them one after
the other and ends at the first that fails, with its error.  What stands on a level comes with the
scope of the level; a group opens one by its ordinal among the groups there.  Different groups have
different scopes, and the scope of a group goes on from that of another exactly where it stands
inside it.  What a chart holds and what a group holds is visited in the same way.  Ordinals stay
small where few groups stand side by side. -/
theorem Visualization.walk_once (v : Visualization) :
    Enumerates v.Holds v.visits ∧
    (∀ {ε σ : Type} (visit : Visitor ε σ) (state : σ),
      (∃ last, v.walk visit state = .ok last ∧
        v.walk (noting visit) (state, []) = .ok (last, v.visits)) ∨
      ∃ before x after reached e, v.visits = before ++ x :: after ∧
        before.foldlM visit state = .ok reached ∧ visit reached x = .error e ∧
        v.walk visit state = .error e ∧
        v.walk (noting visit) (state, []) = .error (e, before ++ [x])) ∧
    (∀ a p x, v.Holds (a ++ [p]) x →
      ∃ l scope, v.Opens a l scope ∧ x.scope = x.scopeOn l scope p.index) ∧
    (∀ a b m n s t, v.Holds a (.group m s) → v.Holds b (.group n t) →
      (a ≠ b → s ≠ t) ∧ ((s <+: t ∧ s ≠ t) ↔ (a <+: b ∧ a ≠ b))) ∧
    (∀ {ε σ : Type} (visit : Visitor ε σ) (state : σ),
      (v.walk visit state = do
        let state ← visit state (.visualization v)
        let state ← v.data.foldlM (fun state d => visit state (.data d [])) state
        (v.level.visits []).foldlM visit state) ∧
      ∀ scope (group : Mark), group.level = v.level →
        walkBody visit scope state group.body = (v.level.visits scope).foldlM visit state) ∧
    ((∀ l outer, v.level.Within l outer → l.marks.countP Mark.isGroup < UInt32.size) →
      ∀ x ∈ v.visits, ∀ k ∈ x.scope, k < UInt32.size) := by
  refine ⟨v.enumerates_visits, ?_, fun a p x => Holds.exists_opens, ?_, ?_, ?_⟩
  · intro ε σ visit state
    simp only [walk_eq_foldlM]
    exact foldlM_noting_cases visit state [] v.visits
  · intro a b m n s t ha hb
    have heq : a ≠ b ↔ s ≠ t := not_congr (ha.eq_iff hb)
    exact ⟨heq.1, by rw [heq, ha.prefix_iff hb]⟩
  · intro ε σ visit state
    refine ⟨?_, fun scope group hgroup => hgroup ▸ walkBody_eq_foldlM visit scope state group⟩
    simp only [walk, Level.visits, List.foldlM_append, ← walkScope_eq_foldlM,
      walkMarks_eq_foldlM, bind_assoc, level]
  · intro hsmall x hx
    obtain ⟨a, h⟩ := v.enumerates_visits.mem_iff.1 hx
    cases h with
    | root | data => simp [Visit.scope]
    | level h => exact h.lt_of_mem_scope hsmall .root (by simp)

/-- An empty group in a group, behind a plain mark. -/
def Visualization.nested : Visualization :=
  { width := 200
    height := 100
    viewport := ⟨200, 100⟩
    padding := .uniform 0
    marks := [.ofType .symbol, { body := .group [] [] [.ofType .group] }] }

/-- Stops at the first plain mark. -/
def stopAtMark : Visitor String Unit
  | _, .mark _ _ => .error "plain mark"
  | _, _ => .ok ()

theorem Visualization.walk_once_nested :
    (∃ m, nested.Holds [.mark 1] (.group m [0]) ∧
      nested.Holds [.mark 1, .mark 0] (.group (.ofType .group) [0, 0])) ∧
    ([0] : Scope) <+: [0, 0] ∧ ([0] : Scope) ≠ [0, 0] ∧
    nested.walk stopAtMark () = .error "plain mark" ∧
    nested.walk (noting stopAtMark) ((), []) =
      .error ("plain mark", [.visualization nested, .mark (.ofType .symbol) []]) ∧
    ∀ x ∈ nested.visits, ∀ k ∈ x.scope, k < UInt32.size := by
  obtain ⟨-, -, -, hscopes, -, hsmall⟩ := walk_once nested
  have houter : nested.Holds [.mark 1] (.group { body := .group [] [] [.ofType .group] } [0]) :=
    .level (.group rfl rfl)
  have hinner : nested.Holds [.mark 1, .mark 0] (.group (.ofType .group) [0, 0]) :=
    .level (.inside rfl rfl (.group rfl rfl))
  obtain ⟨hscope, hne⟩ := (hscopes _ _ _ _ _ _ houter hinner).2.2 (by simp)
  have hlevels : ∀ l outer, nested.level.Within l outer →
      l.marks = nested.marks ∨ l.marks = [.ofType .group] ∨ l.marks = [] := by
    intro l outer hl
    induction hl with
    | root => exact .inl rfl
    | @inside l outer m _ hm ih =>
      rcases ih with h | h | h <;> rw [h] at hm
      · rcases List.mem_pair.1 hm with rfl | rfl
        · exact .inr (.inr rfl)
        · exact .inr (.inl rfl)
      · rw [List.mem_singleton.1 hm]
        exact .inr (.inr rfl)
      · cases hm
  refine ⟨⟨_, houter, hinner⟩, hscope, hne, ?_, ?_, hsmall fun l outer hl => ?_⟩
  · rfl
  · rfl
  · rcases hlevels l outer hl with h | h | h <;> rw [h] <;> decide

end ChartSpec
