import ChartSpec.Naming

/-!
# Separators in names

Respelling a name drops whatever is no letter and no number, and the case of letters and numbers
never turns them into a point or an underscore.  So a respelled name has neither of them
(`not_mem_toCamel`), and there is no underscore within a word of a name.
-/

namespace ChartSpec

/-- A character that words never have, in whatever case they are written. -/
structure Text.IsSeparator (sep : Char) : Prop where
  cuts : isAlphanumeric sep = false
  lower : ∀ {c}, c ≠ sep → sep ∉ lower c
  upper : ∀ {c}, c ≠ sep → sep ∉ upper c

/-! ## Characters -/

namespace CodePoints

theorem Run.contains_eq_true {r : Run} {n : Nat} :
    r.contains n = true ↔ (r.first ≤ n ∧ n ≤ r.last) ∧ (n - r.first) % r.step = 0 := by
  simp [Run.contains]

/-- A code point stays or goes where one of the shifts takes it. -/
theorem shifted_cases (n : Nat) (shifts : List Shift) :
    shifted n shifts = n ∨
      ∃ s ∈ shifts, s.contains n = true ∧ shifted n shifts = (n + s.distance).toNat := by
  cases hfind : shifts.find? (fun s => s.contains n) with
  | none => exact .inl (by rw [shifted, hfind])
  | some s =>
    have hcontains := List.find?_some hfind
    exact .inr ⟨s, List.mem_of_find?_eq_some hfind, hcontains, by rw [shifted, hfind]⟩

end CodePoints

namespace Text

theorem toNat_of_ofNat_eq {n : Nat} {c : Char} (hc : c ≠ '\x00') (h : Char.ofNat n = c) :
    n = c.toNat := by
  by_cases hvalid : n.isValidChar
  · rw [Char.ofNat, dif_pos hvalid] at h
    exact congrArg Char.toNat h
  · rw [Char.ofNat, dif_neg hvalid] at h
    exact absurd h.symm hc

theorem mem_of_lookup {sequences : List (Nat × List Nat)} {n : Nat} {points : List Nat}
    (h : sequences.lookup n = some points) : (n, points) ∈ sequences := by
  obtain ⟨before, after, hsplit, -⟩ := List.lookup_eq_some_iff.1 h
  rw [hsplit]
  exact List.mem_append_right before List.mem_cons_self

/-- No table of cases leads to a character that is neither in a sequence nor where a run goes. -/
theorem not_mem_mapCase {sequences : List (Nat × List Nat)} {shifts : List CodePoints.Shift}
    {sep : Char} (hsep : sep ≠ '\x00') (hsequences : ∀ s ∈ sequences, sep.toNat ∉ s.2)
    (hshifts : ∀ s ∈ shifts, sep.toNat < s.first + s.distance ∨ s.last + s.distance < sep.toNat)
    {c : Char} (hc : c ≠ sep) : sep ∉ mapCase sequences shifts c := by
  rw [mapCase]
  split
  · rename_i points hlookup
    intro hmem
    obtain ⟨n, hn, hpoint⟩ := List.mem_map.1 hmem
    rw [toNat_of_ofNat_eq hsep hpoint] at hn
    exact hsequences _ (mem_of_lookup hlookup) hn
  · intro hmem
    have hpoint := toNat_of_ofNat_eq hsep (List.mem_singleton.1 hmem).symm
    rcases CodePoints.shifted_cases c.toNat shifts with hstays | ⟨s, hs, hcontains, hgoes⟩
    · exact hc (Char.toNat_inj.1 (hstays.symm.trans hpoint))
    · obtain ⟨hbounds, -⟩ := CodePoints.Run.contains_eq_true.1 hcontains
      have houtside := hshifts s hs
      have hzero : sep.toNat ≠ 0 := fun heq => hsep (Char.toNat_inj.1 heq)
      omega

theorem isSeparator_point : IsSeparator '.' where
  cuts := by decide
  lower := not_mem_mapCase (by decide) (by decide +kernel) (by decide +kernel)
  upper := not_mem_mapCase (by decide) (by decide +kernel) (by decide +kernel)

theorem isSeparator_underscore : IsSeparator '_' where
  cuts := by decide
  lower := not_mem_mapCase (by decide) (by decide +kernel) (by decide +kernel)
  upper := not_mem_mapCase (by decide) (by decide +kernel) (by decide +kernel)

end Text

/-! ## Words -/

namespace Naming

theorem stretches_ne_nil (s : List Char) : stretches s ≠ [] := by
  cases s with
  | nil => simp [stretches]
  | cons c s =>
    rw [stretches]
    split
    · simp
    · split <;> simp

variable {sep : Char} (hsep : Text.IsSeparator sep)
include hsep

/-- The stretches of a name are letters and numbers. -/
theorem not_mem_stretches (s : List Char) : ∀ w ∈ stretches s, sep ∉ w := by
  induction s with
  | nil => simp [stretches]
  | cons c s ih =>
    rw [stretches]
    split
    · rename_i hnil
      exact absurd hnil (stretches_ne_nil s)
    · rename_i w more hrest
      rw [hrest] at ih
      obtain ⟨hw, hmore⟩ := List.forall_mem_cons.1 ih
      split
      · rename_i halphanumeric
        refine List.forall_mem_cons.2 ⟨?_, hmore⟩
        rw [List.mem_cons, not_or]
        refine ⟨?_, hw⟩
        rintro rfl
        rw [hsep.cuts] at halphanumeric
        cases halphanumeric
      · exact List.forall_mem_cons.2 ⟨List.not_mem_nil, ih⟩

omit hsep in
/-- A stretch is cut into words and nothing comes in. -/
theorem flatten_wordsAfter (mode : Mode) (word s : List Char) :
    (wordsAfter mode word s).flatten = word ++ s := by
  fun_induction wordsAfter mode word s with
  | case1 mode word hempty => simp_all
  | case2 mode word hempty => simp
  | case3 mode word c => simp
  | case4 mode word c next rest hlower ih => simp [ih]
  | case5 mode word c next rest hlower hupper ih => simp [ih]
  | case6 mode word c next rest hlower hupper ih => simp [ih]

theorem not_mem_words (name : String) : ∀ w ∈ words name, sep ∉ w := by
  intro w hw hmem
  obtain ⟨stretch, hstretch, hword⟩ := List.mem_flatMap.1 hw
  refine not_mem_stretches hsep name.toList stretch hstretch ?_
  rw [← List.nil_append stretch, ← flatten_wordsAfter .boundary]
  exact List.mem_flatten_of_mem hword hmem

theorem not_mem_lowerWord {w : List Char} (h : sep ∉ w) : sep ∉ lowerWord w := by
  fun_induction lowerWord w with
  | case1 => exact h
  | case2 =>
    have hfinal : Text.isAlphanumeric 'ς' = true := by decide
    rw [List.mem_singleton]
    rintro rfl
    rw [hsep.cuts] at hfinal
    cases hfinal
  | case3 c hc => exact hsep.lower fun heq => h (heq ▸ List.mem_singleton_self c)
  | case4 c rest hrest ih =>
    obtain ⟨hc, hmem⟩ := List.ne_and_not_mem_of_not_mem_cons h
    rw [List.mem_append, not_or]
    exact ⟨hsep.lower hc.symm, ih hmem⟩

theorem not_mem_capitalWord {w : List Char} (h : sep ∉ w) : sep ∉ capitalWord w := by
  cases w with
  | nil => exact h
  | cons c rest =>
    obtain ⟨hc, hmem⟩ := List.ne_and_not_mem_of_not_mem_cons h
    rw [capitalWord, List.mem_append, not_or]
    exact ⟨hsep.upper hc.symm, not_mem_lowerWord hsep hmem⟩

theorem not_mem_joinCapitals {ws : List (List Char)} (h : ∀ w ∈ ws, sep ∉ w) :
    sep ∉ joinCapitals ws := by
  cases ws with
  | nil => simp [joinCapitals]
  | cons w rest =>
    obtain ⟨hw, hrest⟩ := List.forall_mem_cons.1 h
    rw [joinCapitals, List.mem_append, not_or]
    refine ⟨not_mem_lowerWord hsep hw, ?_⟩
    rw [List.mem_flatMap]
    rintro ⟨w', hw', hmem⟩
    exact not_mem_capitalWord hsep (hrest w' hw') hmem

end Naming

/-! ## Top theorems -/

/-- A name that is respelled loses its separators. -/
theorem not_mem_toCamel {sep : Char} (hsep : Text.IsSeparator sep) {name : String}
    (h : '_' ∈ name.toList) : sep ∉ (toCamel name).toList := by
  rw [toCamel, if_pos h, String.toList_ofList]
  exact Naming.not_mem_joinCapitals hsep (Naming.not_mem_words hsep name)

/-- A name is respelled once: it has no underscore afterwards. -/
theorem toCamel_toCamel (name : String) : toCamel (toCamel name) = toCamel name := by
  by_cases h : '_' ∈ name.toList
  · have hgone : '_' ∉ (toCamel name).toList := not_mem_toCamel Text.isSeparator_underscore h
    rw [toCamel, if_neg hgone]
  · have hkept : toCamel name = name := if_neg h
    rw [hkept, hkept]

end ChartSpec
