/-
Whole numbers in binary64. A natural below `2 ^ 53` is a number of the format:
with a mantissa of 53 bits and the exponent that goes with it (`whole`). Rounding
leaves it as it is (`round_scaled`), so a sum of such numbers that stays below
`2 ^ 53` is exact (`toFloat_add`), and so is the sum of a list (`foldl_toFloat`).
-/
import Mathlib

namespace Dataflow.Numeric

open Float.Model Float.Model.UnpackedFloat

/-! ## Scaled naturals -/

theorem log2_scaled {n : Nat} (hn : 0 < n) (k : Nat) : (n * 2 ^ k).log2 = n.log2 + k := by
  have hscaled : n * 2 ^ k ≠ 0 := Nat.mul_ne_zero hn.ne' (Nat.two_pow_pos k).ne'
  obtain ⟨hle, hlt⟩ := (Nat.log2_eq_iff hn.ne').mp rfl
  refine (Nat.log2_eq_iff hscaled).mpr ⟨?_, ?_⟩
  · rw [Nat.pow_add]
    exact Nat.mul_le_mul_right _ hle
  · rw [Nat.add_right_comm, Nat.pow_add]
    exact Nat.mul_lt_mul_of_pos_right hlt (Nat.two_pow_pos k)

theorem log2_le_52 {n : Nat} (hn : 0 < n) (h : n < 2 ^ 53) : n.log2 ≤ 52 :=
  Nat.le_of_lt_succ ((Nat.log2_lt hn.ne').mpr h)

/-- With all its bits, the mantissa of a natural below `2 ^ 53` is scaled as its exponent says. -/
theorem exponent_eq {n : Nat} (hn : 0 < n) (h : n < 2 ^ 53) :
    (n.log2 - 52 : Int) = -((52 - n.log2 : Nat) : Int) := by
  have hlog := log2_le_52 hn h
  omega

theorem log2_mantissa {n : Nat} (hn : 0 < n) (h : n < 2 ^ 53) : (n * 2 ^ (52 - n.log2)).log2 = 52 := by
  have hlog := log2_le_52 hn h
  rw [log2_scaled hn]
  omega

theorem shiftRight_scaled (n d : Nat) :
    (⟨n * 2 ^ d, false, false⟩ : ExtendedMantissa) >>> d = ⟨n, false, false⟩ := by
  change Nat.repeat ExtendedMantissa.shiftRightOne d ⟨n * 2 ^ d, false, false⟩ = _
  induction d generalizing n with
  | zero => simp [Nat.repeat]
  | succ d ih =>
    have hdouble : n * 2 ^ (d + 1) = n * 2 * 2 ^ d := by ring
    rw [Nat.repeat, hdouble, ih]
    simp [ExtendedMantissa.shiftRightOne]

/-! ## Whole numbers -/

def whole (n : Nat) : UnpackedFloat :=
  if h : n = 0 then .zero .positive
  else .finite .positive (n * 2 ^ (52 - n.log2)) (n.log2 - 52)
    (Nat.mul_pos (Nat.pos_of_ne_zero h) (Nat.two_pow_pos _))

theorem whole_of_pos {n : Nat} (hn : 0 < n) :
    whole n = .finite .positive (n * 2 ^ (52 - n.log2)) (n.log2 - 52) (Nat.mul_pos hn (Nat.two_pow_pos _)) :=
  dif_neg hn.ne'

theorem targetExponent_scaled {n : Nat} (hn : 0 < n) (k : Nat) :
    Format.binary64.targetExponent (totalExponent (n * 2 ^ k) (-k)) = n.log2 - 52 := by
  rw [totalExponent, log2_scaled hn]
  simp only [Format.targetExponent, Format.minExponent, Format.mantissaBits]
  omega

theorem shift_scaled {n k : Nat} (hn : 0 < n) (h : n < 2 ^ 53) (hk : 52 - n.log2 ≤ k) :
    shiftToTargetExponent Format.binary64 (n * 2 ^ k) (-k) .exact =
      (⟨n * 2 ^ (52 - n.log2), false, false⟩, (n.log2 - 52 : Int)) := by
  have hlog := log2_le_52 hn h
  obtain ⟨d, rfl⟩ := Nat.exists_eq_add_of_le hk
  have hamount : ((n.log2 - 52 : Int) - -((52 - n.log2 + d : Nat) : Int)).toNat = d := by omega
  have hmantissa : n * 2 ^ (52 - n.log2 + d) = n * 2 ^ (52 - n.log2) * 2 ^ d := by ring
  rw [shiftToTargetExponent, targetExponent_scaled hn, shiftToExponent]
  simp only [hamount, ExtendedMantissa.ofMantissaAndAccuracy]
  rw [hmantissa, shiftRight_scaled]
  refine Prod.ext rfl ?_
  change -((52 - n.log2 + d : Nat) : Int) + d = _
  omega

theorem roundWithAccuracy_scaled {n k : Nat} (hn : 0 < n) (h : n < 2 ^ 53) (hk : 52 - n.log2 ≤ k) :
    roundWithAccuracy Format.binary64 .positive (n * 2 ^ k) (-k) .exact = whole n := by
  have hkept : (⟨n * 2 ^ (52 - n.log2), false, false⟩ : ExtendedMantissa).roundedMantissa = n * 2 ^ (52 - n.log2) := rfl
  -- The second shift comes behind the rounding and finds nothing to do.
  have hagain := shift_scaled hn h (Nat.le_refl (52 - n.log2))
  rw [← exponent_eq hn h] at hagain
  rw [roundWithAccuracy, shift_scaled hn h hk, whole_of_pos hn]
  simp only [hkept, hagain]
  exact dif_neg (Nat.mul_pos hn (Nat.two_pow_pos _)).ne'

theorem decrease_scaled (n k target : Nat) :
    decreaseExponent (n * 2 ^ k) (-k) (-target) = (n * 2 ^ max k target, -((max k target : Nat) : Int)) := by
  have hamount : (-(k : Int) - -(target : Int)).toNat = target - k := by omega
  have hbits : k + (target - k) = max k target := by omega
  rw [decreaseExponent, hamount, Nat.shiftLeft_eq, Nat.mul_assoc, ← Nat.pow_add, hbits]
  refine Prod.ext rfl ?_
  change -(k : Int) - ((target - k : Nat) : Int) = _
  omega

/-- **Rounding leaves a scaled natural as it is.** -/
theorem round_scaled {n : Nat} (hn : 0 < n) (h : n < 2 ^ 53) (k : Nat) :
    UnpackedFloat.round Format.binary64 .positive (n * 2 ^ k) (-k) = whole n := by
  rw [UnpackedFloat.round, targetExponent_scaled hn, exponent_eq hn h]
  simp only [decrease_scaled]
  exact roundWithAccuracy_scaled hn h (Nat.le_max_right ..)

theorem normalize_scaled {n : Nat} (h : n < 2 ^ 53) (k : Nat) :
    UnpackedFloat.normalize Format.binary64 ((n * 2 ^ k : Nat) : Int) (-k) .positive = whole n := by
  rcases Nat.eq_zero_or_pos n with rfl | hn
  · rw [Nat.zero_mul]
    rfl
  · have hpos : (0 : Int) < ((n * 2 ^ k : Nat) : Int) := Int.natCast_pos.mpr (Nat.mul_pos hn (Nat.two_pow_pos _))
    have hgt : compare ((n * 2 ^ k : Nat) : Int) 0 = .gt := compare_gt_iff_gt.mpr hpos
    rw [UnpackedFloat.normalize, hgt]
    exact round_scaled hn h k

/-! ## Sums -/

theorem add_whole {a b : Nat} (h : a + b < 2 ^ 53) :
    UnpackedFloat.add Format.binary64 (whole a) (whole b) = whole (a + b) := by
  rcases Nat.eq_zero_or_pos a with rfl | ha
  · rw [Nat.zero_add]
    rcases Nat.eq_zero_or_pos b with rfl | hb
    · rfl
    · rw [whole_of_pos hb]
      rfl
  rcases Nat.eq_zero_or_pos b with rfl | hb
  · rw [Nat.add_zero, whole_of_pos ha]
    rfl
  have hea := exponent_eq ha (by omega)
  have heb := exponent_eq hb (by omega)
  -- Both are brought to the smaller exponent, which leaves the larger number of bits.
  have hmin : min (-((52 - a.log2 : Nat) : Int)) (-((52 - b.log2 : Nat) : Int)) =
      -((max (52 - a.log2) (52 - b.log2) : Nat) : Int) := by omega
  rw [whole_of_pos ha, whole_of_pos hb, UnpackedFloat.add, hea, heb, hmin]
  simp only [decrease_scaled, Sign.apply]
  rw [Nat.max_eq_right (Nat.le_max_left ..), Nat.max_eq_right (Nat.le_max_right ..), ← Int.natCast_add,
    ← Nat.add_mul]
  exact normalize_scaled h _

/-! ## Bit patterns -/

theorem toNat_leading {m : Nat} (h : m.log2 = 52) : (1#1 ++ BitVec.ofNat 52 m).toNat = m := by
  have hm : m ≠ 0 := by
    rintro rfl
    exact absurd h (by decide)
  obtain ⟨hle, hlt⟩ := (Nat.log2_eq_iff hm).mp h
  rw [BitVec.toNat_append, ← Nat.shiftLeft_add_eq_or_of_lt (BitVec.ofNat 52 m).isLt, BitVec.toNat_ofNat,
    Nat.shiftLeft_eq, BitVec.toNat_ofNat]
  omega

theorem pack_whole {n : Nat} (hn : 0 < n) (h : n < 2 ^ 53) :
    UnpackedFloat.pack Format.binary64 (whole n) =
      packComponents Format.binary64 .positive (BitVec.ofNat 11 (n.log2 + 1023))
        (BitVec.ofNat 52 (n * 2 ^ (52 - n.log2))) := by
  have hlog := log2_le_52 hn h
  have hbiased : ((n.log2 - 52 : Int) + Format.binary64.exponentBias +
      Format.binary64.mantissaBitsWithoutImplicit).toNat = n.log2 + 1023 := by
    change ((n.log2 - 52 : Int) + (1023 : Nat) + (52 : Nat)).toNat = _
    omega
  rw [whole_of_pos hn, UnpackedFloat.pack]
  simp only [log2_mantissa hn h, hbiased]
  have hall : 52 + 1 = Format.binary64.mantissaBits := rfl
  rw [if_neg (by omega), if_pos hall]

/-- **A whole number is read back from its bits.** -/
theorem unpack_pack_whole {n : Nat} (h : n < 2 ^ 53) :
    UnpackedFloat.unpack Format.binary64 (UnpackedFloat.pack Format.binary64 (whole n)) = whole n := by
  rcases Nat.eq_zero_or_pos n with rfl | hn
  · rfl
  have hlog := log2_le_52 hn h
  have hbits : (BitVec.ofNat 11 (n.log2 + 1023)).toNat = n.log2 + 1023 := by
    rw [BitVec.toNat_ofNat]
    omega
  have hones : BitVec.ofNat 11 (n.log2 + 1023) ≠ -1#11 := by
    intro heq
    have hnat : n.log2 + 1023 = 2047 := hbits.symm.trans (congrArg BitVec.toNat heq)
    omega
  have hzero : BitVec.ofNat 11 (n.log2 + 1023) ≠ 0#11 := by
    intro heq
    have hnat : n.log2 + 1023 = 0 := hbits.symm.trans (congrArg BitVec.toNat heq)
    omega
  have hexponent : ((n.log2 + 1023 : Nat) : Int) - (Format.binary64.exponentBias + (52 : Nat)) = n.log2 - 52 := by
    change ((n.log2 + 1023 : Nat) : Int) - ((1023 : Nat) + (52 : Nat)) = _
    omega
  rw [pack_whole hn h, UnpackedFloat.unpack, whole_of_pos hn]
  simp only [unpackExponent_packComponents, unpackMantissa_packComponents, unpackSign_packComponents,
    Sign.ofBitVec_toBitVec]
  rw [if_neg hones, if_neg hzero]
  simp only [toNat_leading (log2_mantissa hn h), hbits, hexponent]

/-! ## Numbers of 64 bits -/

theorem toFloat_eq {n : UInt64} (h : n.toNat < 2 ^ 53) : n.toFloat = .ofModel (.pack (whole n.toNat)) := by
  have hwhole := normalize_scaled h 0
  rw [Nat.pow_zero, Nat.mul_one] at hwhole
  exact congrArg (fun u => Float.ofModel (.pack u)) hwhole

/-- **Whole numbers are added exactly** as long as the sum stays below `2 ^ 53`. -/
theorem toFloat_add {a b : UInt64} (h : a.toNat + b.toNat < 2 ^ 53) : a.toFloat + b.toFloat = (a + b).toFloat := by
  have hsum : (a + b).toNat = a.toNat + b.toNat := by
    rw [UInt64.toNat_add]
    omega
  have hmodel : (.pack (whole a.toNat) + .pack (whole b.toNat) : Float.Model) = .pack (whole (a + b).toNat) := by
    change Float.Model.pack (UnpackedFloat.add Format.binary64
      (UnpackedFloat.unpack Format.binary64 (UnpackedFloat.pack Format.binary64 (whole a.toNat)))
      (UnpackedFloat.unpack Format.binary64 (UnpackedFloat.pack Format.binary64 (whole b.toNat)))) = _
    rw [unpack_pack_whole (by omega), unpack_pack_whole (by omega), add_whole h, hsum]
  rw [toFloat_eq (by omega), toFloat_eq (by omega), toFloat_eq (by omega)]
  exact congrArg Float.ofModel hmodel

theorem zero_eq_toFloat : (0 : Float) = (0 : UInt64).toFloat := by
  decide +kernel

/-- **The sum of a list of whole numbers is exact**, taken from the first to the last. -/
theorem foldl_toFloat (amounts : List UInt64) (start : UInt64)
    (h : start.toNat + (amounts.map UInt64.toNat).sum < 2 ^ 53) :
    (amounts.map UInt64.toFloat).foldl (· + ·) start.toFloat =
      (UInt64.ofNat (start.toNat + (amounts.map UInt64.toNat).sum)).toFloat := by
  induction amounts generalizing start with
  | nil => simp
  | cons a rest ih =>
    rw [List.map_cons, List.sum_cons] at h
    have hstart : (start + a).toNat = start.toNat + a.toNat := by
      rw [UInt64.toNat_add]
      omega
    rw [List.map_cons, List.foldl_cons, toFloat_add (by omega), ih (start + a) (by omega), hstart, List.map_cons,
      List.sum_cons, Nat.add_assoc]

end Dataflow.Numeric
