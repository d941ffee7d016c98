import ChartSpec.Proofs.DataNames
import Mathlib.Logic.Relation

/-!
# Referential integrity

However the building of parts is interleaved, every reference to a data set that a registered
part holds is to a registered data set, and a data set reads only data sets that were registered
before it (`Bench.references_registered`).  So no data set reads itself, not even through others.
-/

namespace ChartSpec

namespace Registry

/-- One name is that of a data set which reads a data set of the other name. -/
def Reads (r : Registry) (a b : String) : Prop := ∃ d ∈ r.data, d.name = a ∧ b ∈ d.dataNames

/-- Data sets of different names, each reading only what stands before it. -/
structure DataSound (data : List Data) : Prop where
  nodup : (data.map Data.name).Nodup
  earlier : ∀ before d after, data = before ++ d :: after → d.dataNames ⊆ before.map Data.name

/-- Every reference to a data set is to a registered one. -/
structure Sound (r : Registry) : Prop where
  data : DataSound r.data
  scales : ∀ s ∈ r.scales, s.dataNames ⊆ r.dataNames
  marks : ∀ m ∈ r.marks, m.dataNames ⊆ r.dataNames

/-! ## Lemmas -/

theorem DataSound.nil : DataSound [] := by
  refine ⟨List.nodup_nil, ?_⟩
  intro before d after h
  simp at h

theorem DataSound.concat {data : List Data} {d : Data} (h : DataSound data)
    (hname : d.name ∉ data.map Data.name) (hd : d.dataNames ⊆ data.map Data.name) :
    DataSound (data ++ [d]) := by
  constructor
  · rw [List.map_append, List.map_singleton, ← List.concat_eq_append]
    exact h.nodup.concat hname
  · intro before e after hsplit
    rcases List.eq_nil_or_concat after with rfl | ⟨after, last, rfl⟩
    · obtain ⟨rfl, heq⟩ := List.append_inj' hsplit rfl
      cases heq
      exact hd
    · have hinit : data = before ++ e :: after := by
        rw [List.concat_eq_append, ← List.cons_append, ← List.append_assoc] at hsplit
        exact (List.append_inj' hsplit rfl).1
      exact h.earlier before e after hinit

/-- Reading goes to the left in the list of the names. -/
theorem DataSound.idxOf_lt {r : Registry} (h : DataSound r.data) {a b : String}
    (hab : r.Reads a b) :
    r.dataNames.idxOf b < r.dataNames.idxOf a := by
  obtain ⟨d, hd, rfl, hb⟩ := hab
  obtain ⟨before, after, hsplit⟩ := List.append_of_mem hd
  have hbefore : b ∈ before.map Data.name := h.earlier before d after hsplit hb
  have hnames : r.dataNames = before.map Data.name ++ d.name :: after.map Data.name := by
    rw [dataNames, hsplit, List.map_append, List.map_cons]
  have hfresh : d.name ∉ before.map Data.name := by
    have hnodup : r.dataNames.Nodup := h.nodup
    rw [hnames] at hnodup
    intro hmem
    exact (List.nodup_append.1 hnodup).2.2 _ hmem _ List.mem_cons_self rfl
  rw [hnames, List.idxOf_append_of_mem hbefore, List.idxOf_append_of_notMem hfresh,
    List.idxOf_cons_self, Nat.add_zero]
  exact List.idxOf_lt_length_of_mem hbefore

theorem DataSound.not_reads_self {r : Registry} (h : DataSound r.data) (a : String) :
    ¬ Relation.TransGen r.Reads a a := by
  have hlt : ∀ b, Relation.TransGen r.Reads a b → r.dataNames.idxOf b < r.dataNames.idxOf a := by
    intro b hab
    induction hab with
    | single hab => exact h.idxOf_lt hab
    | tail _ hbc ih =>
      have hstep := h.idxOf_lt hbc
      omega
  intro haa
  exact Nat.lt_irrefl _ (hlt a haa)

theorem Sound.add {r r' : Registry} {k : PartKind} {d : k.Draft} {made : k.Made} (h : r.Sound)
    (hd : k.dataNames d ⊆ r.dataNames) (hadd : k.add r d = .ok (r', made)) : r'.Sound := by
  cases k with
  | data =>
    obtain ⟨-, hname, rfl, -⟩ := addData_eq_ok.1 hadd
    have hgrows := (grows_addData hadd).dataNames_subset
    exact ⟨h.data.concat hname hd, fun s hs => List.Subset.trans (h.scales s hs) hgrows,
      fun m hm => List.Subset.trans (h.marks m hm) hgrows⟩
  | scale =>
    obtain ⟨-, -, rfl, -⟩ := addScale_eq_ok.1 hadd
    refine ⟨h.data, ?_, h.marks⟩
    intro s hs
    rcases List.mem_append.1 hs with hs | hs
    · exact h.scales s hs
    · rw [List.mem_singleton.1 hs]
      exact hd
  | mark =>
    obtain ⟨-, -, rfl, -⟩ := addMark_eq_ok.1 hadd
    refine ⟨h.data, h.scales, ?_⟩
    intro m hm
    rcases List.mem_append.1 hm with hm | hm
    · exact h.marks m hm
    · rw [List.mem_singleton.1 hm]
      exact hd
  | axis =>
    obtain ⟨-, rfl⟩ := addAxis_eq_ok.1 hadd
    exact ⟨h.data, h.scales, h.marks⟩

end Registry

/-- Whatever the calls are, drafts refer to registered data sets and registered parts do too. -/
theorem kept_sound : Kept (fun _ _ _ => True) Registry.Sound
    fun r k d => k.dataNames d ⊆ r.dataNames where
  empty := ⟨.nil, by simp, by simp⟩
  start r k seed := by
    rw [PartKind.dataNames_start]
    exact List.nil_subset _
  call r k d d' c _ hd _ h := PartKind.dataNames_apply hd h
  add r r' k d made hr hd h := hr.add hd h
  transform r r' kind properties t hr h := by
    obtain ⟨-, -, rfl⟩ := Registry.buildTransform_eq_ok.1 h
    exact ⟨hr.data, hr.scales, hr.marks⟩
  grows r r' k d hgrows hd := List.Subset.trans hd hgrows.dataNames_subset

theorem Bench.allows_true (b : Bench) (moves : List Move) : b.Allows (fun _ _ _ => True) moves := by
  induction moves generalizing b with
  | nil => trivial
  | cons m rest ih =>
    refine ⟨?_, ih _⟩
    cases m <;> trivial

theorem Bench.sound_run (moves : List Move) : (run {} moves).registry.Sound :=
  kept_sound.run (allows_true {} moves) kept_sound.empty (by simp)

/-! ## Top theorem -/

/-- After any run of moves from an empty bench: a registered data set reads only data sets that
stand before it, reading does not lead back to where it started, and all data sets that registered
scales and marks refer to are registered. -/
theorem Bench.references_registered (moves : List Move) :
    let r := (run {} moves).registry
    (∀ before d after, r.data = before ++ d :: after →
      ∀ n ∈ d.dataNames, ∃ e ∈ before, e.name = n) ∧
    (∀ n, ¬ Relation.TransGen r.Reads n n) ∧
    (∀ s ∈ r.scales, ∀ ref ∈ s.dataRefs, ∃ d ∈ r.data, d.name = ref.data) ∧
    (∀ m ∈ r.marks, ∀ n ∈ m.dataNames, ∃ d ∈ r.data, d.name = n) := by
  intro r
  have h : r.Sound := sound_run moves
  refine ⟨?_, h.data.not_reads_self, ?_, ?_⟩
  · intro before d after hsplit n hn
    exact List.mem_map.1 (h.data.earlier before d after hsplit hn)
  · intro s hs ref href
    exact List.mem_map.1 (h.scales s hs (List.mem_map_of_mem href))
  · intro m hm n hn
    exact List.mem_map.1 (h.marks m hm hn)

end ChartSpec
