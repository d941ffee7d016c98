import ChartSpec.Binary64
import Mathlib.Algebra.Order.Field.Rat
import Mathlib.Algebra.Order.Field.Basic
import Mathlib.Tactic.Linarith

/-!
# Values of doubles

The value of a double is a rational number (`Binary64.toRat`).  Since magnitudes count the values
upwards, the interval from zero to one can be told from the fields
(`Binary64.inUnitInterval_iff`).
-/

namespace ChartSpec

namespace Binary64

/-- The value of a double. -/
def toRat (x : Binary64) : ℚ :=
  (if x.negative then -1 else 1) * ((x.numerator : ℚ) / x.denominator)

/-! ## Lemmas -/

variable {x : Binary64}

theorem denominator_pos (x : Binary64) : 0 < x.denominator := Nat.pow_pos (by decide)

/-- Below the first power of two the magnitudes are the multiples of the least one. -/
theorem fields_of_subnormal (h : x.magnitude < fractions) :
    x.numerator = x.magnitude ∧ fractions ≤ x.denominator := by
  have hexponent : x.exponent = -1074 := if_pos h
  have hsignificand : x.significand = x.magnitude := if_pos h
  unfold numerator denominator
  rw [hexponent, hsignificand]
  have hpower : ∀ k, 52 ≤ k → fractions ≤ Nat.pow 2 k :=
    fun k hk => Nat.pow_le_pow_right (by decide) hk
  exact ⟨Nat.mul_one _, hpower _ (by decide)⟩

theorem fields_of_normal (h : ¬ x.magnitude < fractions) :
    x.numerator = (fractions + x.magnitude % fractions) *
        2 ^ (x.magnitude / fractions - 1075) ∧
      x.denominator = 2 ^ (1075 - x.magnitude / fractions) := by
  have hexponent : x.exponent = (x.magnitude / fractions : Nat) - 1075 := if_neg h
  have hsignificand : x.significand = fractions + x.magnitude % fractions := if_neg h
  unfold numerator denominator
  rw [hexponent, hsignificand]
  have hup : ((x.magnitude / fractions : Nat) - 1075 : Int).toNat =
      x.magnitude / fractions - 1075 := by omega
  have hdown : (-((x.magnitude / fractions : Nat) - 1075 : Int)).toNat =
      1075 - x.magnitude / fractions := by omega
  rw [hup, hdown]
  exact ⟨rfl, rfl⟩

theorem numerator_eq_zero : x.numerator = 0 ↔ x.magnitude = 0 := by
  by_cases h : x.magnitude < fractions
  · rw [(fields_of_subnormal h).1]
  · have hpos : 0 < fractions := by decide
    have hpow : 0 < 2 ^ (x.magnitude / fractions - 1075) := Nat.pow_pos (by decide)
    rw [(fields_of_normal h).1, Nat.mul_eq_zero]
    omega

/-- One is the value whose magnitude has the exponent field 1023 and no fraction. -/
theorem numerator_le_denominator :
    x.numerator ≤ x.denominator ↔ x.magnitude ≤ one.magnitude := by
  have hone : one.magnitude = 1023 * fractions := rfl
  have hpos : 0 < fractions := by decide
  rw [hone]
  by_cases h : x.magnitude < fractions
  · obtain ⟨hnum, hden⟩ := fields_of_subnormal h
    rw [hnum]
    omega
  · obtain ⟨hnum, hden⟩ := fields_of_normal h
    rw [hnum, hden]
    have hsplit := Nat.div_add_mod x.magnitude fractions
    have hmod := Nat.mod_lt x.magnitude hpos
    generalize x.magnitude / fractions = q at *
    generalize x.magnitude % fractions = s at *
    -- The exponent field decides, but for the one of the powers of two from one to two.
    rcases Nat.lt_trichotomy q 1023 with hq | rfl | hq
    · have htwice : 2 * fractions = 2 ^ 53 := rfl
      have hpow : 2 * fractions ≤ 2 ^ (1075 - q) := by
        rw [htwice]
        exact Nat.pow_le_pow_right (by decide) (by omega)
      have hzero : q - 1075 = 0 := by omega
      have hmul : fractions * q ≤ fractions * 1022 := Nat.mul_le_mul_left _ (by omega)
      rw [hzero, Nat.pow_zero, Nat.mul_one]
      omega
    · have hpow : 2 ^ (1075 - 1023) = fractions := rfl
      have hscale : 2 ^ (1023 - 1075) = 1 := rfl
      rw [hpow, hscale, Nat.mul_one]
      omega
    · have hpow : 2 * 2 ^ (1075 - q) ≤ fractions := by
        rw [← Nat.pow_succ']
        exact Nat.pow_le_pow_right (by decide) (by omega)
      have hscale : fractions + s ≤ (fractions + s) * 2 ^ (q - 1075) :=
        Nat.le_mul_of_pos_right _ (Nat.pow_pos (by decide))
      have hmul : fractions * 1024 ≤ fractions * q := Nat.mul_le_mul_left _ (by omega)
      omega

/-! ## Top theorem -/

theorem inUnitInterval_iff : x.inUnitInterval = true ↔ 0 ≤ x.toRat ∧ x.toRat ≤ 1 := by
  have hden : (0 : ℚ) < x.denominator := Nat.cast_pos.2 x.denominator_pos
  have hnonneg : (0 : ℚ) ≤ x.numerator / x.denominator :=
    div_nonneg (Nat.cast_nonneg _) hden.le
  have hzero : (x.numerator : ℚ) / x.denominator = 0 ↔ x.magnitude = 0 := by
    rw [div_eq_zero_iff, or_iff_left hden.ne', Nat.cast_eq_zero, numerator_eq_zero]
  have hle : (x.numerator : ℚ) / x.denominator ≤ 1 ↔ x.magnitude ≤ one.magnitude := by
    rw [div_le_one hden, Nat.cast_le, numerator_le_denominator]
  unfold inUnitInterval toRat
  cases x.negative with
  | false =>
    simp only [Bool.false_eq_true, if_false, one_mul, hle, hnonneg, true_and, Bool.not_false,
      Bool.true_and, Bool.or_eq_true, beq_iff_eq, decide_eq_true_eq]
    omega
  | true =>
    simp only [if_true, neg_one_mul, Bool.not_true, Bool.false_and, Bool.or_false, beq_iff_eq,
      ← hzero]
    constructor
    · intro h
      rw [h]
      simp
    · rintro ⟨h, -⟩
      linarith

end Binary64

end ChartSpec
