import ChartSpec.Draft
import Mathlib.Data.List.Forall2

/-!
# Results

When a composed computation succeeds, so did its parts; when it fails, so did the first part that
did not succeed.  A run of calls on a draft keeps what every call keeps.
-/

namespace ChartSpec

section

variable {ε α β : Type}

@[simp] theorem bind_eq_ok {x : Except ε α} {f : α → Except ε β} {b : β} :
    (x >>= f) = .ok b ↔ ∃ a, x = .ok a ∧ f a = .ok b := by
  cases x with
  | error e => simp [bind, Except.bind]
  | ok a => simp [bind, Except.bind]

@[simp] theorem pure_eq_ok {a b : α} : (pure a : Except ε α) = .ok b ↔ a = b := by
  simp [pure, Except.pure]

@[simp] theorem map_eq_ok {x : Except ε α} {f : α → β} {b : β} :
    x.map f = .ok b ↔ ∃ a, x = .ok a ∧ f a = b := by
  cases x with
  | error e => simp [Except.map]
  | ok a => simp [Except.map]

@[simp] theorem functorMap_eq_ok {x : Except ε α} {f : α → β} {b : β} :
    f <$> x = .ok b ↔ ∃ a, x = .ok a ∧ f a = b := map_eq_ok

theorem map_eq_error {x : Except ε α} {f : α → β} {e : ε} :
    x.map f = .error e ↔ x = .error e := by
  cases x <;> simp [Except.map]

theorem forM_eq_ok {f : α → Except ε Unit} {xs : List α} {u : Unit} :
    xs.forM f = .ok u ↔ ∀ x ∈ xs, f x = .ok () := by
  induction xs with
  | nil => simp
  | cons x xs ih =>
    rw [List.forM_eq_forM] at ih ⊢
    rw [List.forM_cons, bind_eq_ok, List.forall_mem_cons, ← ih]
    constructor
    · rintro ⟨u, hx, hrest⟩
      exact ⟨hx, hrest⟩
    · rintro ⟨hx, hrest⟩
      exact ⟨(), hx, hrest⟩

theorem optionForM_eq_ok {f : α → Except ε Unit} {x : Option α} {u : Unit} :
    x.forM f = .ok u ↔ ∀ a ∈ x, f a = .ok () := by
  cases x with
  | none => simp [Option.forM]
  | some a => simp [Option.forM]

/-- What every step of a fold keeps, the fold keeps. -/
theorem foldlM_induction {P : β → Prop} {f : β → α → Except ε β} {xs : List α} {b b' : β}
    (h : xs.foldlM f b = .ok b') (hb : P b)
    (hstep : ∀ x ∈ xs, ∀ c c', P c → f c x = .ok c' → P c') : P b' := by
  induction xs generalizing b with
  | nil =>
    simp only [List.foldlM_nil, pure_eq_ok] at h
    exact h ▸ hb
  | cons x xs ih =>
    simp only [List.foldlM_cons, bind_eq_ok] at h
    obtain ⟨c, hc, h⟩ := h
    exact ih h (hstep x List.mem_cons_self b c hb hc)
      fun y hy => hstep y (List.mem_cons_of_mem x hy)

/-- A fold whose steps succeed wherever another's do succeeds wherever the other does. -/
theorem foldlM_eq_ok_of_imp {f g : β → α → Except ε β} {xs : List α} {b b' : β}
    (hstep : ∀ x ∈ xs, ∀ b b', f b x = .ok b' → g b x = .ok b') (h : xs.foldlM f b = .ok b') :
    xs.foldlM g b = .ok b' := by
  induction xs generalizing b with
  | nil => exact h
  | cons x xs ih =>
    simp only [List.foldlM_cons, bind_eq_ok] at h ⊢
    obtain ⟨c, hc, hrest⟩ := h
    exact ⟨c, hstep x List.mem_cons_self b c hc,
      ih (fun y hy => hstep y (List.mem_cons_of_mem x hy)) hrest⟩

/-- All values, in order. -/
theorem mapM_eq_ok {f : α → Except ε β} {xs : List α} {ys : List β} :
    xs.mapM f = .ok ys ↔ List.Forall₂ (fun x y => f x = .ok y) xs ys := by
  induction xs generalizing ys with
  | nil => rw [List.mapM_nil, pure_eq_ok, List.forall₂_nil_left_iff, eq_comm]
  | cons x xs ih =>
    simp only [List.mapM_cons, bind_eq_ok, pure_eq_ok, ih, List.forall₂_cons_left_iff]
    constructor
    · rintro ⟨y, hy, ys, hys, rfl⟩
      exact ⟨y, ys, hy, hys, rfl⟩
    · rintro ⟨y, ys, hy, hys, rfl⟩
      exact ⟨y, hy, ys, hys, rfl⟩

/-- The first value that there is not. -/
theorem mapM_eq_error {f : α → Except ε β} {xs : List α} {e : ε} :
    xs.mapM f = .error e ↔ ∃ before x after, xs = before ++ x :: after ∧
      (∀ y ∈ before, ∃ b, f y = .ok b) ∧ f x = .error e := by
  induction xs with
  | nil => simp [pure, Except.pure]
  | cons x xs ih =>
    rw [List.mapM_cons]
    cases hx : f x with
    | error e' =>
      constructor
      · intro h
        cases h
        exact ⟨[], x, xs, rfl, nofun, hx⟩
      · rintro ⟨before, y, after, hsplit, hbefore, hy⟩
        cases before with
        | nil =>
          obtain ⟨rfl, -⟩ := List.cons.inj hsplit
          rw [← hx, hy]
          rfl
        | cons z before =>
          obtain ⟨rfl, -⟩ := List.cons.inj hsplit
          obtain ⟨b, hb⟩ := hbefore _ List.mem_cons_self
          rw [hx] at hb
          cases hb
    | ok b =>
      have hrest : (do
          let b ← Except.ok b
          let bs ← xs.mapM f
          return b :: bs : Except ε (List β)) = .error e ↔ xs.mapM f = .error e := by
        cases xs.mapM f <;> simp [bind, Except.bind, pure, Except.pure]
      rw [hrest, ih]
      constructor
      · rintro ⟨before, y, after, rfl, hbefore, hy⟩
        exact ⟨x :: before, y, after, rfl, List.forall_mem_cons.2 ⟨⟨b, hx⟩, hbefore⟩, hy⟩
      · rintro ⟨before, y, after, hsplit, hbefore, hy⟩
        cases before with
        | nil =>
          obtain ⟨rfl, -⟩ := List.cons.inj hsplit
          rw [hx] at hy
          cases hy
        | cons z before =>
          obtain ⟨rfl, rfl⟩ := List.cons.inj hsplit
          exact ⟨before, y, after, rfl, (List.forall_mem_cons.1 hbefore).2, hy⟩

end

@[simp] theorem inPlace_eq_ok {α : Type} {p : Place} {x : Except Error α} {a : α} :
    inPlace p x = .ok a ↔ x = .ok a := by
  cases x <;> simp [inPlace]

@[simp] theorem demand_eq_ok {α : Type} {r : Refusal} {x : Option α} {a : α} :
    demand r x = .ok a ↔ x = some a := by
  cases x <;> simp [demand]

theorem demand_eq_error {α : Type} {r : Refusal} {x : Option α} {e : Error} :
    demand r x = .error e ↔ x = none ∧ e = .refused r := by
  cases x <;> simp [demand, eq_comm]

/-! ## Drafts -/

section

variable {δ κ ρ : Type} {apply : δ → κ → Except Error δ}

theorem applyFrom_nil (done : Nat) (draft : δ) : applyFrom apply done draft [] = .ok draft := rfl

theorem applyFrom_cons_eq_ok {done : Nat} {draft draft' : δ} {call : κ} {rest : List κ} :
    applyFrom apply done draft (call :: rest) = .ok draft' ↔
      ∃ next, apply draft call = .ok next ∧ applyFrom apply (done + 1) next rest = .ok draft' := by
  rw [applyFrom]
  cases apply draft call with
  | error e => simp
  | ok next => simp

theorem applyFrom_cons_of_ok {done : Nat} {draft next : δ} {call : κ} {rest : List κ}
    (h : apply draft call = .ok next) :
    applyFrom apply done draft (call :: rest) = applyFrom apply (done + 1) next rest := by
  rw [applyFrom, h]

theorem applyFrom_cons_of_error {done : Nat} {draft : δ} {call : κ} {rest : List κ}
    {error : Error} (h : apply draft call = .error error) :
    applyFrom apply done draft (call :: rest) = .error { error, done } := by
  rw [applyFrom, h]

/-- Without the count of calls, a run is a fold, whether it succeeds or fails. -/
theorem foldlM_eq_mapError (done : Nat) (draft : δ) (calls : List κ) :
    calls.foldlM apply draft = (applyFrom apply done draft calls).mapError Failure.error := by
  induction calls generalizing done draft with
  | nil => rfl
  | cons call rest ih =>
    rw [List.foldlM_cons, applyFrom]
    cases apply draft call with
    | error e => rfl
    | ok next => exact ih (done + 1) next

/-- A list of calls ends at the first that fails. -/
theorem applyAll_eq_error {draft : δ} {calls : List κ} {failure : Failure}
    (h : applyAll apply draft calls = .error failure) :
    ∃ draft' call, calls[failure.done]? = some call ∧ apply draft' call = .error failure.error := by
  have hfrom : ∀ done, applyFrom apply done draft calls = .error failure →
      ∃ draft' call i, failure.done = done + i ∧ calls[i]? = some call ∧
        apply draft' call = .error failure.error := by
    clear h
    induction calls generalizing draft with
    | nil => exact fun done h => nomatch h
    | cons call rest ih =>
      intro done h
      cases hcall : apply draft call with
      | error e =>
        rw [applyFrom_cons_of_error hcall] at h
        cases h
        exact ⟨draft, call, 0, rfl, rfl, hcall⟩
      | ok next =>
        rw [applyFrom_cons_of_ok hcall] at h
        obtain ⟨draft', call', i, hdone, hi, hcall'⟩ := ih (done + 1) h
        exact ⟨draft', call', i + 1, by omega, hi, hcall'⟩
  obtain ⟨draft', call, i, hdone, hi, hcall⟩ := hfrom 0 h
  rw [Nat.zero_add] at hdone
  exact ⟨draft', call, hdone ▸ hi, hcall⟩

/-- Calls that all succeed are a fold; only a failure says how far it got. -/
theorem applyAll_eq_ok {draft draft' : δ} {calls : List κ} :
    applyAll apply draft calls = .ok draft' ↔ calls.foldlM apply draft = .ok draft' := by
  have hfrom : ∀ done, applyFrom apply done draft calls = .ok draft' ↔
      calls.foldlM apply draft = .ok draft' := by
    induction calls generalizing draft with
    | nil =>
      intro done
      rw [applyFrom_nil, List.foldlM_nil, pure_eq_ok, Except.ok.injEq]
    | cons call rest ih =>
      intro done
      rw [applyFrom_cons_eq_ok, List.foldlM_cons, bind_eq_ok]
      simp only [ih]
  exact hfrom 0

@[simp] theorem finishing_eq_ok {calls : List κ} {finish : δ → Except Error ρ} {draft : δ} {r : ρ} :
    finishing calls finish draft = .ok r ↔ finish draft = .ok r := by
  rw [finishing]
  cases finish draft <;> simp

end

end ChartSpec
