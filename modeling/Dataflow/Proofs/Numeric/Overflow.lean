/-
Numbers that are too large for single precision. The largest number of binary32
has an odd mantissa, so what lies half a unit of its last place above it, or
more, rounds to infinity (`narrow_isInf`).
-/
import Dataflow.Numeric.Binary
import Mathlib.Tactic.Ring

namespace Dataflow.Numeric

/-- What lies at most half a unit below an even number is rounded up to it. -/
theorem le_roundDiv {even num den : Nat} (hden : 0 < den) (heven : even % 2 = 0)
    (h : (2 * even - 1) * den ≤ 2 * num) : even ≤ roundDiv num den := by
  have hsplit := Nat.div_add_mod num den
  have hmod := Nat.mod_lt num hden
  unfold roundDiv
  generalize num / den = q at *
  generalize num % den = r at *
  rcases Nat.lt_or_ge (q + 1) even with hbelow | hnear
  · -- The quotient would be more than one unit below.
    have hfar : (2 * (q + 1)) * den ≤ (2 * even - 2) * den := Nat.mul_le_mul_right den (by omega)
    have hstep : (2 * even - 1) * den = (2 * even - 2) * den + den := by
      rw [← Nat.succ_mul]
      congr 1
      omega
    have hq : (2 * (q + 1)) * den = 2 * (den * q) + 2 * den := by ring
    omega
  rcases Nat.lt_or_ge q even with hone | hdone
  · obtain rfl : even = q + 1 := by omega
    have hhalf : (2 * (q + 1) - 1) * den = 2 * (den * q) + den := by
      have hodd : 2 * (q + 1) - 1 = 2 * q + 1 := by omega
      rw [hodd, Nat.succ_mul, Nat.mul_assoc, Nat.mul_comm q]
    have hup : ¬ 2 * r < den := by omega
    simp only [hup, if_false]
    split <;> omega
  · simp only
    split
    · exact hdone
    · split <;> omega

namespace BinaryFormat

/-- The least number that rounds to the infinity of single precision. -/
def overflow32 : Nat := (2 ^ 25 - 1) * 2 ^ 103

theorem exponentOf_of_large {num den : Nat} (hden : 0 < den) (h : overflow32 * den ≤ num) :
    ∃ top : Nat, 127 ≤ top ∧ den * 2 ^ top ≤ num ∧ binary32.exponentOf num den = top - 23 := by
  have hlarge : 2 ^ 127 * den ≤ num := Nat.le_trans (Nat.mul_le_mul_right den (by decide)) h
  have hnum : num ≠ 0 := by
    have := Nat.mul_pos (Nat.two_pow_pos 127) hden
    omega
  have hbits : 127 + den.log2 ≤ num.log2 := by
    rw [Nat.le_log2 hnum, Nat.pow_add]
    exact Nat.le_trans (Nat.mul_le_mul_left _ (Nat.log2_self_le (Nat.pos_iff_ne_zero.mp hden))) hlarge
  obtain ⟨guess, hguess⟩ := Nat.exists_eq_add_of_le (Nat.le_trans (Nat.le_add_left ..) hbits)
  have hdiff : (num.log2 : Int) - den.log2 = guess := by omega
  have hneg : (-(guess : Int)).toNat = 0 := by omega
  have hleast : binary32.leastExponent = -149 := by decide
  have hfraction : (binary32.fractionBits : Int) = 23 := rfl
  unfold exponentOf
  simp only [hdiff, hneg, Int.toNat_natCast, Nat.pow_eq, Nat.pow_zero, Nat.mul_one, hleast, hfraction]
  by_cases henough : den * 2 ^ guess ≤ num
  · refine ⟨guess, by omega, henough, ?_⟩
    rw [if_pos henough]
    omega
  · -- The quotient has a bit less than the guess says; the first guess that could be wrong is 128.
    have hmore : guess ≠ 127 := by
      rintro rfl
      exact henough (by rwa [Nat.mul_comm])
    refine ⟨guess - 1, by omega, ?_, ?_⟩
    · have hhalf : den * 2 ^ (guess - 1) ≤ 2 ^ (den.log2 + 1) * 2 ^ (guess - 1) :=
        Nat.mul_le_mul_right _ (Nat.le_of_lt Nat.lt_log2_self)
      rw [← Nat.pow_add] at hhalf
      have hexponent : den.log2 + 1 + (guess - 1) = num.log2 := by omega
      rw [hexponent] at hhalf
      exact Nat.le_trans hhalf (Nat.log2_self_le hnum)
    · rw [if_neg henough]
      omega

/-- **A large quotient rounds to infinity.** -/
theorem roundQuotient_of_large {num den : Nat} (hden : 0 < den) (h : overflow32 * den ≤ num) :
    binary32.roundQuotient num den = binary32.infinityBits := by
  obtain ⟨top, htop, hnum, hexponent⟩ := exponentOf_of_large hden h
  have hpos : num ≠ 0 := by
    have := Nat.mul_pos hden (Nat.two_pow_pos top)
    omega
  have hleast : binary32.leastExponent = -149 := by decide
  have hneg : (-((top : Int) - 23)).toNat = 0 := by omega
  have hshift : ((top : Int) - 23).toNat = top - 23 := by omega
  have hplace : ((top : Int) - 23 - -149).toNat = top + 126 := by omega
  have hunit : 0 < den * 2 ^ (top - 23) := Nat.mul_pos hden (Nat.two_pow_pos _)
  have hinfinity : binary32.infinityBits = 255 * 2 ^ 23 := by decide
  have hfraction : Nat.pow 2 binary32.fractionBits = 2 ^ 23 := rfl
  unfold roundQuotient
  simp only [hpos, if_false, hexponent, hleast, hneg, hshift, hplace, hfraction, hinfinity, Nat.pow_eq, Nat.pow_zero,
    Nat.mul_one]
  refine Nat.min_eq_right ?_
  rcases Nat.lt_or_ge 127 top with hmore | hone
  · have hscaled : den * 2 ^ top = 2 ^ 23 * (den * 2 ^ (top - 23)) := by
      rw [Nat.mul_left_comm, ← Nat.pow_add]
      congr 2
      omega
    have hmantissa : 2 ^ 23 ≤ roundDiv num (den * 2 ^ (top - 23)) := le_roundDiv hunit (by decide) (by omega)
    have hplaces := Nat.mul_le_mul_right (2 ^ 23) (show 254 ≤ top + 126 by omega)
    omega
  · obtain rfl : top = 127 := by omega
    have hscaled : (2 * 2 ^ 24 - 1) * (den * 2 ^ (127 - 23)) = 2 * (overflow32 * den) := by
      rw [overflow32, Nat.mul_left_comm _ den, Nat.mul_comm den, ← Nat.mul_assoc 2]
      rfl
    have hmantissa : 2 ^ 24 ≤ roundDiv num (den * 2 ^ (127 - 23)) :=
      le_roundDiv hunit (by decide) (hscaled ▸ Nat.mul_le_mul_left 2 h)
    exact Nat.le_trans (by decide) (Nat.add_le_add_left hmantissa _)

end BinaryFormat

/-- **A double precision number that is too large for single precision becomes infinity.** -/
theorem narrow_isInf {x : Float} {negative : Bool} {mantissa : Nat} {exponent : Int}
    (hx : unpack64 x = .finite negative mantissa exponent)
    (h : BinaryFormat.overflow32 * 2 ^ (-exponent).toNat ≤ mantissa * 2 ^ exponent.toNat) :
    (narrow x).isInf = true := by
  have hbits := BinaryFormat.roundQuotient_of_large (Nat.two_pow_pos _) h
  unfold narrow pack32 BinaryFormat.pack
  simp only [hx, Nat.pow_eq, hbits]
  cases negative <;> rfl

end Dataflow.Numeric
