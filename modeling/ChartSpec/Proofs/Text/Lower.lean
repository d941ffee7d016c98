import ChartSpec.Proofs.Naming

/-!
# Lower case is final

No character of a lower-case form has another lower-case form (`Text.lower_of_mem_lower`).  The
shifts lead to code points that no shift starts from, which is read off the table pair by pair.
-/

namespace ChartSpec

namespace CodePoints

/-- Whether a run has none of the code points from `low` to `high`, or of every second of them. -/
def Run.misses (r : Run) (low high : Nat) (everySecond : Bool) : Bool :=
  high.blt r.first || r.last.blt low ||
    (everySecond && r.step.beq 2 && ((low + r.first) % 2).beq 1)

/-- Whether no code point that a shift leads to is one that some shift starts from. -/
def Shift.isFinal (s : Shift) (shifts : List Shift) : Bool :=
  decide (0 ≤ s.first + s.distance) && shifts.all fun r =>
    r.misses (s.first + s.distance).toNat (s.last + s.distance).toNat
      (s.step.beq 2 || s.first.beq s.last)

/-! ## Lemmas -/

theorem Run.not_contains_of_misses {r : Run} {low high n : Nat} {everySecond : Bool}
    (h : r.misses low high everySecond = true) (hlow : low ≤ n) (hhigh : n ≤ high)
    (hsecond : everySecond = true → (n - low) % 2 = 0) : r.contains n = false := by
  rw [← Bool.not_eq_true, contains_eq_true]
  rintro ⟨hbounds, hstep⟩
  simp only [misses, Bool.or_eq_true, Bool.and_eq_true, Nat.blt_eq, Nat.beq_eq] at h
  rcases h with (h | h) | ⟨⟨hevery, hr⟩, hodd⟩
  · omega
  · omega
  · have heven := hsecond hevery
    rw [hr] at hstep
    omega

theorem shifted_of_not_contains {shifts : List Shift} {n : Nat}
    (h : ∀ r ∈ shifts, r.contains n = false) : shifted n shifts = n := by
  have hnone : shifts.find? (fun r => r.contains n) = none :=
    List.find?_eq_none.2 fun r hr => by simp [h r hr]
  rw [shifted, hnone]

/-- Where a final shift leads to, no shift starts. -/
theorem shifted_of_isFinal {s : Shift} {shifts : List Shift} (h : s.isFinal shifts = true)
    {n : Nat} (hn : s.contains n = true) :
    shifted (n + s.distance).toNat shifts = (n + s.distance).toNat := by
  obtain ⟨hbounds, hstep⟩ := Run.contains_eq_true.1 hn
  obtain ⟨hpositive, hmisses⟩ := Bool.and_eq_true_iff.1 h
  have hpositive := of_decide_eq_true hpositive
  refine shifted_of_not_contains fun r hr => ?_
  refine Run.not_contains_of_misses (List.all_eq_true.1 hmisses r hr) (by omega) (by omega) ?_
  rw [Bool.or_eq_true, Nat.beq_eq, Nat.beq_eq]
  rintro (hsecond | hsingle)
  · rw [hsecond] at hstep
    omega
  · omega

/-- If all shifts are final, no code point is shifted twice. -/
theorem shifted_shifted {shifts : List Shift}
    (h : (shifts.all fun s => s.isFinal shifts) = true) (n : Nat) :
    shifted (shifted n shifts) shifts = shifted n shifts := by
  rcases shifted_cases n shifts with hstays | ⟨s, hs, hcontains, hgoes⟩
  · rw [hstays, hstays]
  · rw [hgoes, shifted_of_isFinal (List.all_eq_true.1 h s hs) hcontains]

end CodePoints

namespace Text

theorem lowerShifts_isFinal : (lowerShifts.all fun s => s.isFinal lowerShifts) = true := by
  decide +kernel

theorem lower_ne_nil (c : Char) : lower c ≠ [] := by
  have htable : ∀ p ∈ lowerSequences, p.2 ≠ [] := by decide
  rw [lower, mapCase]
  split
  · rename_i points hlookup
    have hpoints := htable _ (mem_of_lookup hlookup)
    simpa using hpoints
  · simp

/-- No shift leads to the code point of a sequence. -/
theorem lookup_shifted {n : Nat} (h : lowerSequences.lookup n = none) :
    lowerSequences.lookup (CodePoints.shifted n lowerShifts) = none := by
  have htable : ∀ s ∈ lowerShifts, ∀ p ∈ lowerSequences,
      p.1 < s.first + s.distance ∨ 0 ≤ s.first + s.distance ∧ s.last + s.distance < p.1 := by
    decide +kernel
  rcases CodePoints.shifted_cases n lowerShifts with hstays | ⟨s, hs, hcontains, hgoes⟩
  · rw [hstays]
    exact h
  · obtain ⟨hbounds, -⟩ := CodePoints.Run.contains_eq_true.1 hcontains
    refine List.lookup_eq_none_iff.2 fun p hp => ?_
    have houtside := htable s hs p hp
    rw [hgoes, bne_iff_ne]
    omega

/-- A lower-case form has no other lower-case form. -/
theorem lower_of_mem_lower {c c' : Char} (h : c' ∈ lower c) : lower c' = [c'] := by
  have hsequences : ∀ p ∈ lowerSequences, ∀ n ∈ p.2,
      lower (Char.ofNat n) = [Char.ofNat n] := by decide +kernel
  rw [lower, mapCase] at h
  split at h
  · rename_i points hlookup
    obtain ⟨n, hn, rfl⟩ := List.mem_map.1 h
    exact hsequences _ (mem_of_lookup hlookup) n hn
  · rename_i hlookup
    by_cases hzero : c' = '\x00'
    · rw [hzero]
      decide
    · have hnat := toNat_of_ofNat_eq hzero (List.mem_singleton.1 h).symm
      rw [lower, mapCase, ← hnat, lookup_shifted hlookup]
      simp only [CodePoints.shifted_shifted lowerShifts_isFinal]
      rw [← List.mem_singleton.1 h]

end Text

end ChartSpec
