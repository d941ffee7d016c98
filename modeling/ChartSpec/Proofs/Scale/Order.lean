import ChartSpec.Proofs.Mark.Context
import ChartSpec.Proofs.Scale.Calls
import Mathlib.Data.List.Sort

/-!
# Calls in another order

A call on a scale is accepted or refused for its own reasons, which are the registry and the type
of the scale, and writes its own attributes (`Scale.apply_of_type_eq`).  So the calls that write an
attribute give it its value, whatever calls come between them (`Scale.get_of_run`), and calls that
write different attributes can change places:

    range width, domain table.x, reverse        domain table.x, reverse, range width

Calls on one attribute cannot, since the last of them decides.
-/

namespace ChartSpec

/-- What calls on a scale write. -/
inductive ScaleAttribute where
  | domain
  | domainMin
  | domainMax
  | range
  | rangeMin
  | rangeMax
  | reverse
  | round
  | points
  | padding
  | sort
  | clamp
  | nice
  | exponent
  | zero
  deriving DecidableEq

def ScaleAttribute.Value : ScaleAttribute → Type
  | domain | domainMin | domainMax | range | rangeMin | rangeMax => Option ScaleValue
  | reverse | round | points | sort | clamp => Bool
  | padding | exponent => Option Binary64
  | nice => Option Nice
  | zero => Option Bool

def Scale.get (s : Scale) : (a : ScaleAttribute) → a.Value
  | .domain => s.domain
  | .domainMin => s.domainMin
  | .domainMax => s.domainMax
  | .range => s.range
  | .rangeMin => s.rangeMin
  | .rangeMax => s.rangeMax
  | .reverse => s.reverse
  | .round => s.round
  | .points => s.points
  | .padding => s.padding
  | .sort => s.sort
  | .clamp => s.clamp
  | .nice => s.nice
  | .exponent => s.exponent
  | .zero => s.zero

namespace ScaleCall

/-- The attributes that a call writes.  Bounds are written by the calls that give both. -/
def writes : ScaleCall → List ScaleAttribute
  | domain _ => [.domain]
  | domainBounded _ _ _ => [.domain, .domainMin, .domainMax]
  | domainBounds (some _) (some _) => [.domainMin, .domainMax]
  | domainBounds _ _ => []
  | domainFields _ => [.domain]
  | range _ => [.range]
  | rangeKeyword _ => [.range]
  | rangeMin _ => [.rangeMin]
  | rangeMax _ => [.rangeMax]
  | reverse => [.reverse]
  | round => [.round]
  | points => [.points]
  | padding _ => [.padding]
  | sort => [.sort]
  | clamp => [.clamp]
  | nice _ => [.nice]
  | exponent _ => [.exponent]
  | zero _ => [.zero]

/-- A call is not refused on scales of a type. -/
def Accepted (r : Registry) (type : ScaleType) (call : ScaleCall) : Prop :=
  ∃ s s' : Scale, s.type = type ∧ s.apply r call = .ok s'

/-- Two calls write a common attribute. -/
def Conflict (call call' : ScaleCall) : Prop := ∃ a ∈ call.writes, a ∈ call'.writes

instance (call call' : ScaleCall) : Decidable (call.Conflict call') :=
  inferInstanceAs (Decidable (∃ a ∈ call.writes, a ∈ call'.writes))

/-- The same calls in another order, in which calls that write a common attribute follow each other
as before.  A moved call comes with its old position. -/
def Reordered (calls calls' : List ScaleCall) : Prop :=
  ∃ moved : List (ScaleCall × Nat), moved.Perm calls.zipIdx ∧ moved.map Prod.fst = calls' ∧
    moved.Pairwise fun p q => p.1.Conflict q.1 → p.2 < q.2

end ScaleCall

/-! ## Lemmas -/

/-! ### Orders -/

namespace ScaleCall.Reordered

variable {calls calls' : List ScaleCall}

theorem perm (h : Reordered calls calls') : calls'.Perm calls := by
  obtain ⟨moved, hmoved, rfl, -⟩ := h
  have hcalls := hmoved.map Prod.fst
  rwa [List.zipIdx_map_fst] at hcalls

/-- The calls that write an attribute keep their order. -/
theorem filter_writes (h : Reordered calls calls') (a : ScaleAttribute) :
    (calls'.filter fun call => a ∈ call.writes) = calls.filter fun call => a ∈ call.writes := by
  obtain ⟨moved, hmoved, rfl, horder⟩ := h
  -- With their positions they are in the one order in which the positions increase.
  have hnew : (moved.filter fun p => a ∈ p.1.writes).Pairwise fun p q => p.2 < q.2 := by
    refine (horder.filter _).imp_of_mem fun hp hq hlt => hlt ⟨a, ?_, ?_⟩
    · exact of_decide_eq_true (List.mem_filter.1 hp).2
    · exact of_decide_eq_true (List.mem_filter.1 hq).2
  have hold : (calls.zipIdx.filter fun p => a ∈ p.1.writes).Pairwise fun p q => p.2 < q.2 := by
    refine List.Pairwise.filter _ (List.pairwise_map.1 ?_)
    rw [List.zipIdx_map_snd]
    exact List.pairwise_lt_range' 1
  have hsame := (hmoved.filter fun p => a ∈ p.1.writes).eq_of_pairwise
    (fun p q _ _ hpq hqp => absurd hqp (Nat.lt_asymm hpq)) hnew hold
  have hcalls : calls.zipIdx.map Prod.fst = calls := List.zipIdx_map_fst 0 calls
  rw [← hcalls, List.filter_map, List.filter_map]
  exact congrArg (List.map Prod.fst) hsame

end ScaleCall.Reordered

namespace Scale

variable {r : Registry} {s s' t : Scale} {calls : List ScaleCall}

theorem eq_of_get (hname : s.name = t.name) (htype : s.type = t.type)
    (h : ∀ a, s.get a = t.get a) : s = t := by
  cases s
  cases t
  rw [mk.injEq]
  exact ⟨hname, htype, h .domain, h .domainMin, h .domainMax, h .range, h .rangeMin, h .rangeMax,
    h .reverse, h .round, h .points, h .padding, h .sort, h .clamp, h .nice, h .exponent, h .zero⟩

/-! ### Calls -/

/-- A call that is accepted on a scale is accepted on all of the type.  It gives its attributes the
same values and leaves the others. -/
theorem apply_of_type_eq {call : ScaleCall} (htype : t.type = s.type)
    (h : s.apply r call = .ok s') :
    ∃ t', t.apply r call = .ok t' ∧
      ∀ a, t'.get a = if a ∈ call.writes then s'.get a else t.get a := by
  cases call with
  | domain input =>
    obtain ⟨v, hv, rfl⟩ := setDomain_eq_ok.1 h
    exact ⟨_, setDomain_eq_ok.2 ⟨v, hv, rfl⟩, fun a => by cases a <;> rfl⟩
  | domainBounded input low high =>
    obtain ⟨d, v, w, hd, hv, hw, rfl⟩ := apply_domainBounded.1 h
    exact ⟨_, apply_domainBounded.2 ⟨d, v, w, hd, hv, hw, rfl⟩, fun a => by cases a <;> rfl⟩
  | domainBounds low high =>
    obtain ⟨rfl, rfl, rfl⟩ | ⟨l, u, v, w, rfl, rfl, hv, hw, rfl⟩ := setBounds_eq_ok.1 h
    · exact ⟨t, rfl, fun a => by cases a <;> rfl⟩
    · exact ⟨_, setBounds_eq_ok.2 (.inr ⟨l, u, v, w, rfl, rfl, hv, hw, rfl⟩),
        fun a => by cases a <;> rfl⟩
  | domainFields references =>
    obtain ⟨ref, href, rfl⟩ := apply_domainFields.1 h
    exact ⟨_, apply_domainFields.2 ⟨ref, href, rfl⟩, fun a => by cases a <;> rfl⟩
  | range input =>
    obtain ⟨v, hv, rfl⟩ := apply_range.1 h
    exact ⟨_, apply_range.2 ⟨v, hv, rfl⟩, fun a => by cases a <;> rfl⟩
  | rangeMin input =>
    obtain ⟨v, hv, rfl⟩ := apply_rangeMin.1 h
    exact ⟨_, apply_rangeMin.2 ⟨v, hv, rfl⟩, fun a => by cases a <;> rfl⟩
  | rangeMax input =>
    obtain ⟨v, hv, rfl⟩ := apply_rangeMax.1 h
    exact ⟨_, apply_rangeMax.2 ⟨v, hv, rfl⟩, fun a => by cases a <;> rfl⟩
  | rangeKeyword | reverse | round =>
    cases h
    exact ⟨_, rfl, fun a => by cases a <;> rfl⟩
  | points | padding | sort | clamp | exponent | zero =>
    obtain ⟨hallowed, rfl⟩ := require_bind_eq_ok.1 h
    exact ⟨_, require_bind_eq_ok.2 ⟨htype ▸ hallowed, rfl⟩, fun a => by cases a <;> rfl⟩
  | nice n =>
    cases n with
    | enabled | interval =>
      obtain ⟨hallowed, rfl⟩ := require_bind_eq_ok.1 h
      exact ⟨_, require_bind_eq_ok.2 ⟨htype ▸ hallowed, rfl⟩, fun a => by cases a <;> rfl⟩

theorem exists_apply_iff {call : ScaleCall} :
    (∃ s', s.apply r call = .ok s') ↔ call.Accepted r s.type := by
  constructor
  · rintro ⟨s', h⟩
    exact ⟨s, s', rfl, h⟩
  · rintro ⟨t, t', htype, h⟩
    obtain ⟨s', hs', -⟩ := apply_of_type_eq htype.symm h
    exact ⟨s', hs'⟩

/-! ### Runs -/

theorem name_type_of_run (h : calls.foldlM (apply r) s = .ok s') :
    s'.name = s.name ∧ s'.type = s.type := by
  refine foldlM_induction (P := fun d => d.name = s.name ∧ d.type = s.type) h ⟨rfl, rfl⟩ ?_
  rintro call - d d' ⟨hname, htype⟩ happly
  obtain ⟨hname', htype', -⟩ := apply_frame happly
  exact ⟨hname'.trans hname, htype'.trans htype⟩

/-- Calls are accepted one after the other if each is alone. -/
theorem exists_run_iff :
    (∃ s', calls.foldlM (apply r) s = .ok s') ↔ ∀ call ∈ calls, call.Accepted r s.type := by
  induction calls generalizing s with
  | nil => simp
  | cons call rest ih =>
    rw [List.forall_mem_cons, ← exists_apply_iff]
    simp only [List.foldlM_cons, bind_eq_ok]
    constructor
    · rintro ⟨s', d, hcall, hrest⟩
      obtain ⟨-, htype, -⟩ := apply_frame hcall
      exact ⟨⟨d, hcall⟩, htype ▸ ih.1 ⟨s', hrest⟩⟩
    · rintro ⟨⟨d, hcall⟩, hrest⟩
      obtain ⟨-, htype, -⟩ := apply_frame hcall
      obtain ⟨s', hs'⟩ := (ih (s := d)).2 (htype ▸ hrest)
      exact ⟨s', d, hcall, hs'⟩

/-- The calls that write an attribute decide its value, and the others can be left out. -/
theorem get_of_run {a : ScaleAttribute} (h : calls.foldlM (apply r) s = .ok s')
    (htype : t.type = s.type) (hget : t.get a = s.get a) :
    ∃ t', (calls.filter fun call => a ∈ call.writes).foldlM (apply r) t = .ok t' ∧
      t'.get a = s'.get a := by
  induction calls generalizing s t with
  | nil =>
    cases h
    exact ⟨t, rfl, hget⟩
  | cons call rest ih =>
    simp only [List.foldlM_cons, bind_eq_ok] at h
    obtain ⟨d, hcall, hrest⟩ := h
    obtain ⟨-, hkept, -⟩ := apply_frame hcall
    by_cases hwrites : a ∈ call.writes
    · obtain ⟨e, he, hsame⟩ := apply_of_type_eq htype hcall
      obtain ⟨-, hkept', -⟩ := apply_frame he
      have hea : e.get a = d.get a := by rw [hsame a, if_pos hwrites]
      obtain ⟨t', ht', ha⟩ := ih hrest (hkept'.trans (htype.trans hkept.symm)) hea
      refine ⟨t', ?_, ha⟩
      rw [List.filter_cons_of_pos (by simpa using hwrites), List.foldlM_cons]
      exact bind_eq_ok.2 ⟨e, he, ht'⟩
    · obtain ⟨d', hd', hsame⟩ := apply_of_type_eq rfl hcall
      obtain rfl : d = d' := Except.ok.inj (hcall.symm.trans hd')
      have hda : t.get a = d.get a := by rw [hget, hsame a, if_neg hwrites]
      rw [List.filter_cons_of_neg (by simpa using hwrites)]
      exact ih hrest (htype.trans hkept.symm) hda

/-- Reordered calls that are accepted lead to the same scale. -/
theorem eq_of_reordered {calls' : List ScaleCall} {s₁ s₂ : Scale}
    (h : ScaleCall.Reordered calls calls') (h₁ : calls.foldlM (apply r) s = .ok s₁)
    (h₂ : calls'.foldlM (apply r) s = .ok s₂) : s₁ = s₂ := by
  obtain ⟨hname₁, htype₁⟩ := name_type_of_run h₁
  obtain ⟨hname₂, htype₂⟩ := name_type_of_run h₂
  refine eq_of_get (hname₁.trans hname₂.symm) (htype₁.trans htype₂.symm) fun a => ?_
  obtain ⟨t₁, ht₁, ha₁⟩ := get_of_run (a := a) h₁ rfl rfl
  obtain ⟨t₂, ht₂, ha₂⟩ := get_of_run (a := a) h₂ rfl rfl
  rw [h.filter_writes a] at ht₂
  rw [← ha₁, ← ha₂, Except.ok.inj (ht₁.symm.trans ht₂)]

/-- A run of reordered calls is accepted, with its scale, exactly if the other run is. -/
theorem run_reordered {calls' : List ScaleCall} (h : ScaleCall.Reordered calls calls') :
    calls.foldlM (apply r) s = .ok s' ↔ calls'.foldlM (apply r) s = .ok s' := by
  have haccepted : (∃ d, calls.foldlM (apply r) s = .ok d) ↔
      ∃ d, calls'.foldlM (apply r) s = .ok d := by
    simp only [exists_run_iff, h.perm.mem_iff]
  constructor
  · intro hrun
    obtain ⟨d, hd⟩ := haccepted.1 ⟨s', hrun⟩
    rw [hd, eq_of_reordered h hrun hd]
  · intro hrun
    obtain ⟨d, hd⟩ := haccepted.2 ⟨s', hrun⟩
    rw [hd, eq_of_reordered h hd hrun]

end Scale

/-! ## Top theorem -/

/-- Calls on a scale in another order, in which calls that write a common attribute follow each
other as before, build the same scale, or the building fails in both orders. -/
theorem Registry.buildScale_of_reordered (r : Registry) (name : String) (type : ScaleType)
    {calls calls' : List ScaleCall} (h : ScaleCall.Reordered calls calls') :
    (∃ failure failure', r.buildScale name type calls = .error failure ∧
      r.buildScale name type calls' = .error failure') ∨
    ∃ grown s, r.buildScale name type calls = .ok (grown, s) ∧
      r.buildScale name type calls' = .ok (grown, s) := by
  have hsame : ∀ built, r.buildScale name type calls = .ok built ↔
      r.buildScale name type calls' = .ok built := by
    intro built
    simp only [buildScale, bind_eq_ok, applyAll_eq_ok, finishing_eq_ok, Scale.run_reordered h]
  cases hbuilt : r.buildScale name type calls with
  | ok built => exact .inr ⟨built.1, built.2, rfl, (hsame built).1 hbuilt⟩
  | error failure =>
    cases hbuilt' : r.buildScale name type calls' with
    | ok built => cases hbuilt.symm.trans ((hsame built).2 hbuilt')
    | error failure' => exact .inl ⟨failure, failure', rfl, rfl⟩

/-- Calls that give the domain twice, once with its bounds. -/
def ScaleCall.domainTwice : List ScaleCall := [
  .rangeKeyword .width,
  .domain (.reference "table.price"),
  .domainBounded (.data "table") (.literal (.int 0)) (.reference "table.max"),
  .nice (.enabled true)]

/-- The same calls, the domains in their order. -/
def ScaleCall.domainTwiceMoved : List ScaleCall := [
  .domain (.reference "table.price"),
  .nice (.enabled true),
  .domainBounded (.data "table") (.literal (.int 0)) (.reference "table.max"),
  .rangeKeyword .width]

theorem Registry.buildScale_domainTwice :
    ScaleCall.Reordered ScaleCall.domainTwice ScaleCall.domainTwiceMoved ∧
    ∃ grown s, Registry.priced.buildScale "x" .linear ScaleCall.domainTwice = .ok (grown, s) ∧
      Registry.priced.buildScale "x" .linear ScaleCall.domainTwiceMoved = .ok (grown, s) := by
  have hreordered : ScaleCall.Reordered ScaleCall.domainTwice ScaleCall.domainTwiceMoved := by
    refine ⟨[(_, 1), (_, 3), (_, 2), (_, 0)], ?_, rfl, ?_⟩
    · exact ((List.reverse_perm [_, _, _]).cons _).trans (.swap _ _ _)
    · decide
  refine ⟨hreordered, ?_⟩
  obtain ⟨failure, -, hfails, -⟩ | hbuilt :=
    Registry.priced.buildScale_of_reordered "x" .linear hreordered
  · cases hfails
  · exact hbuilt

end ChartSpec
