import ChartSpec.Context
import ChartSpec.Proofs.Registry
import Mathlib.Logic.Function.Basic

/-!
# Interleaved building

Several drafts may be open beside one registry, and the calls on them may come in any order.  A
bench is such a state.  Whatever is kept by each call, by each registration and by the growth of
the registry holds after every run of moves (`Kept.run`).  Building parts one after the other is
a run of moves, so that it also holds of every context that steps lead to
(`Bench.run_movesOfSteps`).
-/

namespace ChartSpec

/-- The kinds of parts that are built by calls on a draft. -/
inductive PartKind where
  | data
  | scale
  | mark
  | axis
  deriving DecidableEq

namespace PartKind

/-- What the building of a part starts from. -/
def Seed : PartKind → Type
  | data => String
  | scale => String × ScaleType
  | mark => MarkType
  | axis => AxisType

/-- A part on the way. -/
def Draft : PartKind → Type
  | data => Data
  | scale => Scale
  | mark => Mark
  | axis => AxisDraft

def Call : PartKind → Type
  | data => DataCall
  | scale => ScaleCall
  | mark => MarkCall
  | axis => AxisCall

/-- A part that has been finished. -/
def Made : PartKind → Type
  | data => Data
  | scale => Scale
  | mark => Mark
  | axis => Axis

def start : (k : PartKind) → k.Seed → k.Draft
  | data, name => ({ name } : Data)
  | scale, (name, type) => ({ name, type } : Scale)
  | mark, type => Mark.ofType type
  | axis, type => ({ type } : AxisDraft)

def apply (r : Registry) : (k : PartKind) → k.Draft → k.Call → Except Error k.Draft
  | data => Data.apply r
  | scale => Scale.apply r
  | mark => Mark.apply r
  | axis => AxisDraft.apply r

/-- Finishes and registers a part. -/
def add (r : Registry) : (k : PartKind) → k.Draft → Except Error (Registry × k.Made)
  | data => r.addData
  | scale => r.addScale
  | mark => r.addMark
  | axis => r.addAxis

/-- Builds a part in one go. -/
def build (r : Registry) (k : PartKind) (seed : k.Seed) (calls : List k.Call) :
    Except Failure (Registry × k.Made) := do
  let draft ← applyAll (k.apply r) (k.start seed) calls
  finishing calls (k.add r) draft

end PartKind

/-- One thing that happens at a bench.  Open drafts are numbered among those of their kind. -/
inductive Move where
  | start (k : PartKind) (seed : k.Seed)
  | call (k : PartKind) (i : Nat) (c : k.Call)
  | finish (k : PartKind) (i : Nat)
  | transform (kind : TransformKind) (properties : Json)

/-- Whether a move, if it is a call, is allowed beside a registry. -/
def Move.IsAllowed (allowed : Registry → (k : PartKind) → k.Call → Prop) (r : Registry) :
    Move → Prop
  | .call k _ c => allowed r k c
  | _ => True

/-- A registry with the drafts that are open beside it. -/
structure Bench where
  registry : Registry := {}
  drafts : (k : PartKind) → List k.Draft := fun _ => []

namespace Bench

def withDrafts (b : Bench) (k : PartKind) (ds : List k.Draft) : Bench :=
  { b with drafts := Function.update b.drafts k ds }

/-- Makes a move.  A draft is gone once a call on it has been refused, and once it has been
finished, whether its registration succeeds or not. -/
def take (b : Bench) : Move → Bench
  | .start k seed => b.withDrafts k (b.drafts k ++ [k.start seed])
  | .call k i c =>
    match (b.drafts k)[i]? with
    | none => b
    | some d =>
      match k.apply b.registry d c with
      | .ok d => b.withDrafts k ((b.drafts k).set i d)
      | .error _ => b.withDrafts k ((b.drafts k).eraseIdx i)
  | .finish k i =>
    match (b.drafts k)[i]? with
    | none => b
    | some d =>
      { b.withDrafts k ((b.drafts k).eraseIdx i) with
        registry := b.registry.after (k.add b.registry d) }
  | .transform kind properties =>
    { b with registry := b.registry.after (b.registry.buildTransform kind properties) }

def run (b : Bench) (moves : List Move) : Bench := moves.foldl take b

/-- Whether every call of a run is allowed beside the registry of its moment. -/
def Allows (allowed : Registry → (k : PartKind) → k.Call → Prop) : Bench → List Move → Prop
  | _, [] => True
  | b, m :: rest => m.IsAllowed allowed b.registry ∧ Allows allowed (b.take m) rest

/-- The moves that build a part in one go. -/
def movesOf (b : Bench) (k : PartKind) (seed : k.Seed) (calls : List k.Call) : List Move :=
  .start k seed ::
    (calls.map (.call k (b.drafts k).length) ++ [.finish k (b.drafts k).length])

/-- The moves that a step of a context comes to.  Visualizations are not registered. -/
def movesOfStep (b : Bench) : Step → List Move
  | .data name calls => b.movesOf .data name calls
  | .scale name type calls => b.movesOf .scale (name, type) calls
  | .transform kind properties => [.transform kind properties]
  | .mark type calls => b.movesOf .mark type calls
  | .axis type calls => b.movesOf .axis type calls
  | .visualization _ => []

end Bench

/-- The context after a step, which may have failed. -/
def Context.after (c : Context) (step : Step) : Context :=
  match c.build step with
  | .ok (c', _) => c'
  | .error _ => c

/-- A property of registries and one of drafts which hold at first, which allowed calls and
registrations keep, and which the growth of the registry keeps. -/
structure Kept (allowed : Registry → (k : PartKind) → k.Call → Prop) (onRegistry : Registry → Prop)
    (onDraft : Registry → (k : PartKind) → k.Draft → Prop) : Prop where
  empty : onRegistry {}
  start : ∀ r k seed, onDraft r k (k.start seed)
  call : ∀ r k d d' c, onRegistry r → onDraft r k d → allowed r k c → k.apply r d c = .ok d' →
    onDraft r k d'
  add : ∀ r r' k d made, onRegistry r → onDraft r k d → k.add r d = .ok (r', made) → onRegistry r'
  transform : ∀ r r' kind properties t, onRegistry r →
    r.buildTransform kind properties = .ok (r', t) → onRegistry r'
  grows : ∀ r r' k d, r.Grows r' → onDraft r k d → onDraft r' k d

/-! ## Lemmas -/

theorem PartKind.grows_add {r r' : Registry} {k : PartKind} {d : k.Draft} {made : k.Made}
    (h : k.add r d = .ok (r', made)) : r.Grows r' := by
  cases k with
  | data => exact Registry.grows_addData h
  | scale => exact Registry.grows_addScale h
  | mark => exact Registry.grows_addMark h
  | axis => exact Registry.grows_addAxis h

namespace Bench

@[simp] theorem withDrafts_registry (b : Bench) (k : PartKind) (ds : List k.Draft) :
    (b.withDrafts k ds).registry = b.registry := rfl

@[simp] theorem withDrafts_drafts (b : Bench) (k : PartKind) (ds : List k.Draft) :
    (b.withDrafts k ds).drafts k = ds := Function.update_self ..

theorem withDrafts_withDrafts (b : Bench) (k : PartKind) (ds ds' : List k.Draft) :
    (b.withDrafts k ds).withDrafts k ds' = b.withDrafts k ds' := by
  simp [withDrafts]

theorem withDrafts_self (b : Bench) (k : PartKind) : b.withDrafts k (b.drafts k) = b := by
  simp [withDrafts]

theorem forall_withDrafts {P : (k : PartKind) → k.Draft → Prop} {b : Bench} {k : PartKind}
    {ds : List k.Draft} (hb : ∀ k, ∀ d ∈ b.drafts k, P k d) (hds : ∀ d ∈ ds, P k d) :
    ∀ k', ∀ d ∈ (b.withDrafts k ds).drafts k', P k' d := by
  intro k' d hd
  by_cases hk : k' = k
  · subst hk
    rw [withDrafts_drafts] at hd
    exact hds d hd
  · have hother : (b.withDrafts k ds).drafts k' = b.drafts k' := Function.update_of_ne hk ..
    rw [hother] at hd
    exact hb k' d hd

theorem run_append (b : Bench) (moves rest : List Move) :
    b.run (moves ++ rest) = (b.run moves).run rest := List.foldl_append

theorem allows_append {allowed : Registry → (k : PartKind) → k.Call → Prop} {b : Bench}
    {moves rest : List Move} :
    b.Allows allowed (moves ++ rest) ↔
      b.Allows allowed moves ∧ (b.run moves).Allows allowed rest := by
  induction moves generalizing b with
  | nil => exact (iff_of_eq (true_and _)).symm
  | cons m moves ih =>
    show _ ∧ (b.take m).Allows allowed (moves ++ rest) ↔ _
    rw [ih, ← and_assoc]
    rfl

theorem grows_take (b : Bench) (m : Move) : b.registry.Grows (b.take m).registry := by
  cases m with
  | start k seed => exact .refl _
  | call k i c =>
    simp only [take]
    split
    · exact .refl _
    · split <;> exact .refl _
  | finish k i =>
    simp only [take]
    split
    · exact .refl _
    · exact Registry.after_induction (.refl _) fun r' a h => PartKind.grows_add h
  | transform kind properties =>
    exact Registry.after_induction (.refl _) fun r' a h => Registry.grows_buildTransform h

/-- Whatever happens at a bench, its registry grows. -/
theorem grows_run (b : Bench) (moves : List Move) : b.registry.Grows (b.run moves).registry := by
  induction moves generalizing b with
  | nil => exact .refl _
  | cons m rest ih => exact (b.grows_take m).trans (ih (b.take m))

end Bench

namespace Kept

variable {allowed : Registry → (k : PartKind) → k.Call → Prop} {onRegistry : Registry → Prop}
  {onDraft : Registry → (k : PartKind) → k.Draft → Prop} {b : Bench}

theorem take (h : Kept allowed onRegistry onDraft) {m : Move}
    (hallowed : m.IsAllowed allowed b.registry) (hr : onRegistry b.registry)
    (hd : ∀ k, ∀ d ∈ b.drafts k, onDraft b.registry k d) :
    onRegistry (b.take m).registry ∧
      ∀ k, ∀ d ∈ (b.take m).drafts k, onDraft (b.take m).registry k d := by
  cases m with
  | start k seed =>
    refine ⟨hr, Bench.forall_withDrafts hd ?_⟩
    intro d hmem
    rcases List.mem_append.1 hmem with hmem | hmem
    · exact hd k d hmem
    · rw [List.mem_singleton.1 hmem]
      exact h.start _ k seed
  | call k i c =>
    simp only [Bench.take]
    split
    · exact ⟨hr, hd⟩
    · rename_i d hi
      have hmem : d ∈ b.drafts k := List.mem_of_getElem? hi
      split
      · rename_i d' happly
        refine ⟨hr, Bench.forall_withDrafts hd ?_⟩
        intro e he
        rcases List.mem_or_eq_of_mem_set he with he | rfl
        · exact hd k e he
        · exact h.call _ k d _ c hr (hd k d hmem) hallowed happly
      · exact ⟨hr, Bench.forall_withDrafts hd fun e he => hd k e (List.mem_of_mem_eraseIdx he)⟩
  | finish k i =>
    have hgrows := b.grows_take (.finish k i)
    simp only [Bench.take] at hgrows ⊢
    split at hgrows
    · exact ⟨hr, hd⟩
    · rename_i d hi
      have hmem : d ∈ b.drafts k := List.mem_of_getElem? hi
      have hadd := fun r' made => h.add b.registry r' k d made hr (hd k d hmem)
      refine ⟨Registry.after_induction hr hadd, ?_⟩
      have herase : ∀ e ∈ (b.drafts k).eraseIdx i, onDraft b.registry k e :=
        fun e he => hd k e (List.mem_of_mem_eraseIdx he)
      intro k' e he
      exact h.grows _ _ k' e hgrows (Bench.forall_withDrafts hd herase k' e he)
  | transform kind properties =>
    refine ⟨Registry.after_induction hr fun r' t ht => h.transform _ _ kind properties t hr ht, ?_⟩
    intro k d hmem
    exact h.grows _ _ k d (b.grows_take (.transform kind properties)) (hd k d hmem)

/-- What is kept holds wherever a run of allowed moves leads. -/
theorem run (h : Kept allowed onRegistry onDraft) {moves : List Move}
    (hallowed : b.Allows allowed moves) (hr : onRegistry b.registry)
    (hd : ∀ k, ∀ d ∈ b.drafts k, onDraft b.registry k d) : onRegistry (b.run moves).registry := by
  induction moves generalizing b with
  | nil => exact hr
  | cons m rest ih =>
    obtain ⟨hr', hd'⟩ := h.take hallowed.1 hr hd
    exact ih hallowed.2 hr' hd'

end Kept

/-! ### Parts one after the other -/

theorem Context.registry_after {c : Context} {step : Step} {α : Type} {part : α → Part}
    {x : Except Failure (Registry × α)} (h : c.build step = x.map (c.grown part)) :
    (c.after step).registry = c.registry.after x := by
  rw [Context.after, h]
  cases x <;> rfl

namespace Bench

/-- Moves on a draft that is not there change nothing. -/
theorem run_absent {b : Bench} {k : PartKind} {i : Nat} (h : (b.drafts k).length ≤ i)
    (calls : List k.Call) : b.run (calls.map (.call k i) ++ [.finish k i]) = b := by
  have hnone : (b.drafts k)[i]? = none := List.getElem?_eq_none h
  induction calls with
  | nil =>
    show b.take (.finish k i) = b
    simp only [take, hnone]
  | cons c rest ih =>
    have htake : b.take (.call k i c) = b := by simp only [take, hnone]
    show (b.take (.call k i c)).run (rest.map (.call k i) ++ [.finish k i]) = b
    rw [htake]
    exact ih

/-- A draft behind all others of its kind is called, finished and gone. -/
theorem run_last (b : Bench) (k : PartKind) (d : k.Draft) (calls all : List k.Call) (done : Nat) :
    (b.withDrafts k (b.drafts k ++ [d])).run
        (calls.map (.call k (b.drafts k).length) ++ [.finish k (b.drafts k).length]) =
      { b with
        registry := b.registry.after
          (applyFrom (k.apply b.registry) done d calls >>= finishing all (k.add b.registry)) } := by
  -- The draft stands at the index that the list had as its length.
  have hlast : (b.drafts k ++ [d])[(b.drafts k).length]? = some d := List.getElem?_concat_length
  have herase : (b.drafts k ++ [d]).eraseIdx (b.drafts k).length = b.drafts k := by
    simp [List.eraseIdx_append_of_length_le]
  induction calls generalizing d done with
  | nil =>
    show (b.withDrafts k (b.drafts k ++ [d])).take (.finish k (b.drafts k).length) = _
    simp only [take, withDrafts_drafts, withDrafts_registry, withDrafts_withDrafts, hlast, herase,
      withDrafts_self]
    show _ = { b with registry := b.registry.after (finishing all (k.add b.registry) d) }
    cases hadd : k.add b.registry d <;> simp only [finishing, hadd, Registry.after]
  | cons c rest ih =>
    show ((b.withDrafts k (b.drafts k ++ [d])).take (.call k (b.drafts k).length c)).run
      (rest.map (.call k (b.drafts k).length) ++ [.finish k (b.drafts k).length]) = _
    simp only [take, withDrafts_drafts, withDrafts_registry, withDrafts_withDrafts, hlast, herase,
      withDrafts_self]
    rw [applyFrom]
    cases happly : k.apply b.registry d c with
    | error e => exact run_absent (Nat.le_refl _) rest
    | ok d' =>
      have hset : (b.drafts k ++ [d]).set (b.drafts k).length d' = b.drafts k ++ [d'] := by simp
      simp only [hset]
      exact ih d' (done + 1) List.getElem?_concat_length
        (by simp [List.eraseIdx_append_of_length_le])

theorem run_movesOf (b : Bench) (k : PartKind) (seed : k.Seed) (calls : List k.Call) :
    b.run (b.movesOf k seed calls) =
      { b with registry := b.registry.after (k.build b.registry seed calls) } :=
  b.run_last k (k.start seed) calls calls 0

/-- A step of a context is a run of moves, with the same registry behind it. -/
theorem run_movesOfStep {b : Bench} {c : Context} (h : b.registry = c.registry) (step : Step) :
    b.run (b.movesOfStep step) = { b with registry := (c.after step).registry } := by
  cases step with
  | data name calls =>
    rw [Context.registry_after (x := c.registry.buildData name calls) rfl, ← h]
    exact b.run_movesOf .data name calls
  | scale name type calls =>
    rw [Context.registry_after (x := c.registry.buildScale name type calls) rfl, ← h]
    exact b.run_movesOf .scale (name, type) calls
  | transform kind properties =>
    show b.take (.transform kind properties) = _
    rw [take, Context.after, Context.build, h]
    cases c.registry.buildTransform kind properties <;> rfl
  | mark type calls =>
    rw [Context.registry_after (x := c.registry.buildMark type calls) rfl, ← h]
    exact b.run_movesOf .mark type calls
  | axis type calls =>
    rw [Context.registry_after (x := c.registry.buildAxis type calls) rfl, ← h]
    exact b.run_movesOf .axis type calls
  | visualization calls =>
    have hsame : (c.after (.visualization calls)).registry = c.registry := by
      rw [Context.after, Context.build]
      cases Visualization.build c.config calls <;> rfl
    rw [hsame, ← h]
    rfl

/-- So are any number of steps. -/
theorem run_movesOfSteps {b : Bench} {c : Context} (h : b.registry = c.registry)
    (steps : List Step) :
    b.run (steps.flatMap b.movesOfStep) =
      { b with registry := (steps.foldl Context.after c).registry } := by
  induction steps generalizing b c with
  | nil =>
    rw [List.foldl_nil, ← h]
    rfl
  | cons step rest ih =>
    -- A step leaves no draft behind, so that the drafts of later steps have the same numbers.
    have hmoves : b.movesOfStep =
        movesOfStep { b with registry := (c.after step).registry } := by
      funext later
      cases later <;> rfl
    rw [List.flatMap_cons, run_append, run_movesOfStep h, List.foldl_cons, hmoves]
    exact ih rfl

end Bench

end ChartSpec
