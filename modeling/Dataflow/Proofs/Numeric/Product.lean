/-
Products in binary64 that stay finite. How large a number can be is told by the
place of its first bit (`Under`): that of a product is at most one above the sum of
the two, rounding raises it a little, and infinity is far away. So a number of
64 bits times a power of ten of two hundred digits is finite (`product_not_isInf`).
-/
import Mathlib
import Dataflow.Numeric.Binary

namespace Dataflow.Numeric

open Float.Model Float.Model.UnpackedFloat

/-! ## The place of the first bit -/

def exponentField (bits : BitVec 64) : Nat := (@unpackExponent Format.binary64 bits).toNat

/-- The number is zero, or has a mantissa of the format and its first bit at a place or below it. -/
def Under (top : Int) : UnpackedFloat → Prop
  | .zero _ => True
  | .finite _ mantissa exponent _ => mantissa.log2 ≤ 52 ∧ mantissa.log2 + exponent ≤ top
  | _ => False

theorem log2_leading (fraction : BitVec 52) : (1#1 ++ fraction).toNat.log2 = 52 := by
  have hlt := fraction.isLt
  have hvalue : (1#1 ++ fraction).toNat = 2 ^ 52 + fraction.toNat := by
    rw [BitVec.toNat_append, ← Nat.shiftLeft_add_eq_or_of_lt fraction.isLt, Nat.shiftLeft_eq]
    simp
  rw [hvalue]
  exact (Nat.log2_eq_iff (by omega)).mpr ⟨by omega, by omega⟩

theorem log2_le_of_lt {n bits : Nat} (h : n < 2 ^ (bits + 1)) : n.log2 ≤ bits := by
  rcases Nat.eq_zero_or_pos n with rfl | hn
  · simp
  · exact Nat.le_of_lt_succ ((Nat.log2_lt (Nat.pos_iff_ne_zero.mp hn)).mpr h)

theorem unpackExponent_ne_ones {bits : BitVec 64} (h : exponentField bits ≠ 2047) :
    @unpackExponent Format.binary64 bits ≠ -1#11 := fun heq => h (congrArg BitVec.toNat heq)

/-- The exponent field of a bit pattern tells where its first bit is. -/
theorem under_unpack {bits : BitVec 64} {top : Int} (hfield : (exponentField bits : Int) ≤ top + 1023)
    (htop : top ≤ 1023) : Under top (UnpackedFloat.unpack Format.binary64 bits) := by
  have hbias : (Format.binary64.exponentBias : Int) = 1023 := rfl
  have hdef : (@unpackExponent Format.binary64 bits).toNat = exponentField bits := rfl
  have hones := unpackExponent_ne_ones (show exponentField bits ≠ 2047 by omega)
  unfold UnpackedFloat.unpack
  simp only [hones, if_false, hbias, hdef]
  split
  next hzero =>
    have hnone : exponentField bits = 0 := congrArg BitVec.toNat hzero
    have hbits : (@unpackMantissa Format.binary64 bits).toNat.log2 ≤ 51 := log2_le_of_lt (BitVec.isLt _)
    split
    · trivial
    · simp only [Under, hnone]
      omega
  next hsome =>
    have hpos : exponentField bits ≠ 0 := fun heq => hsome (BitVec.eq_of_toNat_eq heq)
    have hbits := log2_leading (@unpackMantissa Format.binary64 bits)
    simp only [Under]
    omega

theorem exponentField_zero (sign : Sign) : exponentField (UnpackedFloat.pack Format.binary64 (.zero sign)) = 0 :=
  congrArg BitVec.toNat (@unpackExponent_packComponents Format.binary64 sign 0 0)

theorem exponentField_finite (sign : Sign) {mantissa : Nat} {exponent : Int} (hpos : 0 < mantissa)
    (h : exponent ≤ 971) :
    exponentField (UnpackedFloat.pack Format.binary64 (.finite sign mantissa exponent hpos)) =
      if mantissa.log2 = 52 then (exponent + 1075).toNat else 0 := by
  have hbiased : (exponent + Format.binary64.exponentBias + Format.binary64.mantissaBitsWithoutImplicit).toNat =
      (exponent + 1075).toNat := congrArg Int.toNat (Int.add_assoc exponent 1023 52)
  have hall : Format.binary64.mantissaBits = 53 := rfl
  have hfull : ¬ 2 ^ 11 ≤ (exponent + 1075).toNat + 1 := by omega
  rw [exponentField, UnpackedFloat.pack]
  simp only [hbiased, hall, hfull, if_false]
  split
  next hbits =>
    rw [unpackExponent_packComponents, BitVec.toNat_ofNat, if_pos (by omega)]
    omega
  next hbits =>
    rw [unpackExponent_packComponents, BitVec.toNat_ofNat, if_neg (by omega)]

/-! ## Rounding -/

theorem mantissa_shiftRight_le (em : ExtendedMantissa) (amount : Nat) : (em >>> amount).mantissa ≤ em.mantissa := by
  change (Nat.repeat ExtendedMantissa.shiftRightOne amount em).mantissa ≤ _
  induction amount with
  | zero => exact Nat.le_refl _
  | succ amount ih => exact Nat.le_trans (Nat.div_le_self _ 2) ih

theorem roundedMantissa_le (em : ExtendedMantissa) : em.roundedMantissa ≤ em.mantissa + 1 := by
  obtain ⟨mantissa, roundBit, stickyBit⟩ := em
  have hmod := Nat.mod_lt mantissa (show 0 < 2 by decide)
  cases roundBit <;> cases stickyBit <;>
    simp only [ExtendedMantissa.roundedMantissa, ExtendedMantissa.accuracy, Accuracy.roundToNearestEven] <;> omega

theorem shiftToTargetExponent_exact (mantissa : Nat) (exponent : Int) :
    (shiftToTargetExponent Format.binary64 mantissa exponent .exact).1.mantissa ≤ mantissa ∧
      (shiftToTargetExponent Format.binary64 mantissa exponent .exact).2 =
        max exponent (max (mantissa.log2 + exponent - 52) (-1074)) := by
  refine ⟨mantissa_shiftRight_le _ _, ?_⟩
  have htarget : Format.binary64.targetExponent (totalExponent mantissa exponent) =
      max (mantissa.log2 + 1 + exponent - 53) (-1074) := rfl
  rw [shiftToTargetExponent, shiftToExponent, htarget]
  simp only
  omega

theorem log2_succ_le (n : Nat) : (n + 1).log2 ≤ n.log2 + 1 := by
  refine log2_le_of_lt ?_
  have hlt : n < 2 ^ (n.log2 + 1) := Nat.lt_log2_self
  have hdouble : 2 ^ (n.log2 + 1 + 1) = 2 ^ (n.log2 + 1) * 2 := Nat.pow_succ ..
  omega

theorem log2_mono {m n : Nat} (h : m ≤ n) : m.log2 ≤ n.log2 :=
  log2_le_of_lt (Nat.lt_of_le_of_lt h Nat.lt_log2_self)

/-- The number is zero, or its exponent is one of the format. -/
def Fits : UnpackedFloat → Prop
  | .zero _ => True
  | .finite _ _ exponent _ => exponent ≤ 971
  | _ => False

/-- A product of two mantissas is rounded to a number of the format, if its first bit is low enough. -/
theorem fits_round (sign : Sign) {mantissa : Nat} {exponent : Int} (hbits : mantissa.log2 ≤ 105)
    (hfirst : mantissa.log2 + exponent ≤ 900) :
    Fits (roundWithAccuracy Format.binary64 sign mantissa exponent .exact) := by
  obtain ⟨hshifted, hexponent⟩ := shiftToTargetExponent_exact mantissa exponent
  rw [roundWithAccuracy]
  generalize shiftToTargetExponent Format.binary64 mantissa exponent .exact = shifted at *
  obtain ⟨em, exponent'⟩ := shifted
  simp only at hshifted hexponent ⊢
  -- Rounding adds one bit at most, and the second shift makes room for it.
  have hrounded : em.roundedMantissa.log2 ≤ 106 := by
    have hle := log2_mono (Nat.le_trans (roundedMantissa_le em) (Nat.add_le_add_right hshifted 1))
    have hsucc := log2_succ_le mantissa
    omega
  obtain ⟨-, hagain⟩ := shiftToTargetExponent_exact em.roundedMantissa exponent'
  split
  · trivial
  · simp only [Fits, hagain]
    omega

theorem not_isInf_of_fits {u : UnpackedFloat} (h : Fits u) :
    (UnpackedFloat.unpack Format.binary64 (UnpackedFloat.pack Format.binary64 u)).isInf = false := by
  have hunder : Under 1023 (UnpackedFloat.unpack Format.binary64 (UnpackedFloat.pack Format.binary64 u)) := by
    refine under_unpack ?_ (Int.le_refl _)
    match u, h with
    | .zero sign, _ =>
      rw [exponentField_zero]
      decide
    | .finite sign mantissa exponent hpos, hexponent =>
      rw [exponentField_finite sign hpos hexponent]
      simp only [Fits] at hexponent
      split <;> omega
  generalize UnpackedFloat.unpack Format.binary64 _ = v at hunder
  cases v with
  | infinity sign => exact hunder.elim
  | _ => rfl

/-! ## Products -/

theorem log2_mul_le (m n : Nat) : (m * n).log2 ≤ m.log2 + n.log2 + 1 := by
  refine log2_le_of_lt ?_
  have hm : m < 2 ^ (m.log2 + 1) := Nat.lt_log2_self
  have hn : n < 2 ^ (n.log2 + 1) := Nat.lt_log2_self
  have hpower : 2 ^ (m.log2 + n.log2 + 1 + 1) = 2 ^ (m.log2 + 1) * 2 ^ (n.log2 + 1) := by
    rw [← Nat.pow_add]
    congr 1
    omega
  rw [hpower]
  exact Nat.mul_lt_mul'' hm hn

theorem fits_mul {u v : UnpackedFloat} {top top' : Int} (hu : Under top u) (hv : Under top' v)
    (h : top + top' ≤ 899) : Fits (UnpackedFloat.mul Format.binary64 u v) := by
  match u, v, hu, hv with
  | .zero _, .zero _, _, _ => trivial
  | .zero _, .finite .., _, _ => trivial
  | .finite .., .zero _, _, _ => trivial
  | .finite _ m e _, .finite _ m' e' _, ⟨hbits, hfirst⟩, ⟨hbits', hfirst'⟩ =>
    have hproduct := log2_mul_le m m'
    exact fits_round _ (by omega) (by omega)

/-! ## Natural numbers -/

namespace BinaryFormat

theorem exponentOf_natural {n : Nat} (hn : 0 < n) : binary64.exponentOf n 1 = n.log2 - 52 := by
  have hone : (1 : Nat).log2 = 0 := by decide
  have hleast : binary64.leastExponent = -1074 := by decide
  have hneg : (-(n.log2 : Int)).toNat = 0 := by omega
  have hle : 1 * 2 ^ n.log2 ≤ n := by
    rw [Nat.one_mul]
    exact Nat.log2_self_le (Nat.pos_iff_ne_zero.mp hn)
  have hfraction : (binary64.fractionBits : Int) = 52 := rfl
  unfold exponentOf
  simp only [hone, Int.natCast_zero, Int.sub_zero, hneg, Int.toNat_natCast, Nat.pow_eq, Nat.pow_zero, Nat.mul_one,
    hle, if_true, hleast, hfraction]
  omega

theorem roundDiv_le (num den : Nat) : roundDiv num den ≤ num / den + 1 := by
  have hmod := Nat.mod_lt (num / den) (show 0 < 2 by decide)
  unfold roundDiv
  simp only
  split
  · omega
  · split <;> omega

/-- The bits of a natural number: the exponent field is what stands above the fraction. -/
theorem roundQuotient_natural (n : Nat) : binary64.roundQuotient n 1 / 2 ^ 52 ≤ n.log2 + 1024 := by
  rcases Nat.eq_zero_or_pos n with rfl | hn
  · simp [roundQuotient]
  have hleast : binary64.leastExponent = -1074 := by decide
  have hfraction : Nat.pow 2 binary64.fractionBits = 2 ^ 52 := rfl
  have hplace : ((n.log2 : Int) - 52 - -1074).toNat = n.log2 + 1022 := by omega
  -- The mantissa has 53 bits, or is the power of two above them.
  have hmantissa :
      roundDiv (n * 2 ^ (-((n.log2 : Int) - 52)).toNat) (1 * 2 ^ ((n.log2 : Int) - 52).toNat) ≤ 2 ^ 53 := by
    refine Nat.le_trans (roundDiv_le ..) (Nat.succ_le_of_lt ?_)
    rw [Nat.div_lt_iff_lt_mul (by rw [Nat.one_mul]; exact Nat.two_pow_pos _), Nat.one_mul, ← Nat.pow_add]
    have hscaled := Nat.mul_lt_mul_of_pos_right (Nat.lt_log2_self (n := n))
      (Nat.two_pow_pos (-((n.log2 : Int) - 52)).toNat)
    rw [← Nat.pow_add] at hscaled
    refine Nat.lt_of_lt_of_le hscaled (Nat.pow_le_pow_right (by decide) ?_)
    omega
  unfold roundQuotient
  simp only [Nat.pos_iff_ne_zero.mp hn, if_false, exponentOf_natural hn, hleast, hfraction, hplace, Nat.pow_eq]
  generalize roundDiv _ _ = mantissa at hmantissa
  refine Nat.le_trans (Nat.div_le_div_right (Nat.min_le_left ..)) ?_
  omega

end BinaryFormat

/-- **A natural number in double precision** has its first bit where it belongs, or one above. -/
theorem under_double {n : Nat} (h : n.log2 ≤ 900) : Under (n.log2 + 1) (double n).toModel.unpack := by
  have hsign : ((n : Int) < 0 : Bool) = false := by simp
  have hbits : BinaryFormat.binary64.pack (.finite ((n : Int) < 0) (n : Int).natAbs 0) =
      BinaryFormat.binary64.roundQuotient n 1 := by
    rw [hsign, Int.natAbs_natCast, BinaryFormat.pack]
    simp
  have hfield := BinaryFormat.roundQuotient_natural n
  rw [← hbits] at hfield
  generalize hpattern : BinaryFormat.binary64.pack (.finite ((n : Int) < 0) (n : Int).natAbs 0) = bits at hfield
  have hdouble : (double n).toModel.unpack = UnpackedFloat.unpack Format.binary64
      (UnpackedFloat.pack Format.binary64
        (UnpackedFloat.unpack Format.binary64 (UInt64.ofNat bits).toBitVec)) := by
    rw [← hpattern]
    rfl
  have hexponent : exponentField (UInt64.ofNat bits).toBitVec = bits % 2 ^ 64 / 2 ^ 52 % 2 ^ 11 := by
    simp only [exponentField, unpackExponent, BitVec.toNat_cast, BitVec.extractLsb_toNat, Nat.shiftRight_eq_div_pow]
    rfl
  have hones := unpackExponent_ne_ones (show exponentField (UInt64.ofNat bits).toBitVec ≠ 2047 by omega)
  have hnumber : ¬ @isNaNBits Format.binary64 (UInt64.ofNat bits).toBitVec = true := fun h =>
    hones (of_decide_eq_true h).1
  rw [hdouble, pack_unpack _ (by decide), if_neg hnumber]
  exact under_unpack (by omega) (by omega)

/-- **A product of two natural numbers stays finite** if there are not too many bits. -/
theorem product_not_isInf {m n : Nat} (h : m.log2 + n.log2 ≤ 890) : (double m * double n).isInf = false :=
  not_isInf_of_fits (fits_mul (under_double (by omega)) (under_double (by omega)) (by omega))

end Dataflow.Numeric
