/-
Numerals as JSON has them (`Numeral.Sound`): digits everywhere, at least one in
front, and no zero in front of other digits. The decimal digits of a natural
number are such a whole part and read back to the number, so the numeral of an
integer has this integer as its value (`numeralValue_ofInt`).
-/
import Dataflow.Json.Number
import Dataflow.Json.Token

namespace Dataflow

open Json

namespace Numeric

def AllDigits (cs : List Char) : Prop := ∀ c ∈ cs, isDigit c = true

/-- A numeral as JSON has them. -/
structure Numeral.Sound (n : Numeral) : Prop where
  whole : AllDigits n.whole
  nonempty : n.whole ≠ []
  leading : n.whole.head? = some '0' → n.whole = ['0']
  fraction : AllDigits n.fraction
  power : ∀ p ∈ n.power, p.digits ≠ [] ∧ AllDigits p.digits

/-! ## The digits of a natural number -/

theorem AllDigits.append {cs ds : List Char} (h : AllDigits cs) (h' : AllDigits ds) : AllDigits (cs ++ ds) :=
  List.forall_mem_append.mpr ⟨h, h'⟩

theorem allDigits_zeros (count : Nat) : AllDigits (List.replicate count '0') := by
  intro c hc
  rw [List.eq_of_mem_replicate hc]
  rfl

theorem allDigits_toDigits (n : Nat) : AllDigits (Nat.toDigits 10 n) := by
  intro c hc
  have hdigit := Nat.isDigit_of_mem_toDigits (by omega) (by omega) hc
  simpa [Char.isDigit, isDigit, Char.le_def] using hdigit

theorem head?_toDigits {n : Nat} (h : (Nat.toDigits 10 n).head? = some '0') : n = 0 := by
  induction n using Nat.strongRecOn with
  | ind n ih =>
    rw [Nat.toDigits_eq_if (by omega)] at h
    split at h
    next hlt =>
      have hdigits := Nat.ofDigitChars_ten_toDigits (n := n)
      rw [Nat.toDigits_of_lt_base hlt, Option.some.inj h] at hdigits
      exact hdigits.symm
    next hge =>
      have hhead : (Nat.toDigits 10 (n / 10)).head? = some '0' := by
        rwa [List.head?_append, Option.or_of_isSome (by simp [Nat.toDigits_ne_nil])] at h
      have := ih (n / 10) (by omega) hhead
      omega

theorem toDigits_leading {n : Nat} (h : (Nat.toDigits 10 n).head? = some '0') : Nat.toDigits 10 n = ['0'] := by
  rw [head?_toDigits h, Nat.toDigits_zero]

theorem le_ofDigitChars (cs : List Char) (n : Nat) : n ≤ Nat.ofDigitChars 10 cs n := by
  rw [Nat.ofDigitChars_eq_ofDigitChars_zero]
  have hpower : 0 < 10 ^ cs.length := Nat.pow_pos (by decide)
  have := Nat.le_mul_of_pos_left n hpower
  omega

theorem sound_ofInt (n : Int) : (Numeral.ofInt n).Sound where
  whole := allDigits_toDigits _
  nonempty := Nat.toDigits_ne_nil
  leading := toDigits_leading
  fraction := by simp [Numeral.ofInt, AllDigits]
  power := by simp [Numeral.ofInt]

/-- The integer that the sign and the whole part of a numeral stand for. -/
def Numeral.integer (n : Numeral) : Int :=
  if n.negative then -(Nat.ofDigitChars 10 n.whole 0 : Int) else Nat.ofDigitChars 10 n.whole 0

theorem integer_ofInt (n : Int) : (Numeral.ofInt n).integer = n := by
  simp only [Numeral.integer, Numeral.ofInt, Nat.ofDigitChars_ten_toDigits, decide_eq_true_eq]
  split <;> omega

end Numeric

namespace Json

open Numeric

/-! ## Values -/

/-- Digits are taken in as long as their number stays within the limit. -/
theorem takeDigits_eq {limit : Nat} {cs : List Char} {n : Nat} (h : Nat.ofDigitChars 10 cs n ≤ limit) :
    takeDigits limit n cs = (Nat.ofDigitChars 10 cs n, []) := by
  induction cs generalizing n with
  | nil => rfl
  | cons c cs ih =>
    rw [Nat.ofDigitChars_cons, Nat.mul_comm] at h ⊢
    have hnext := le_ofDigitChars cs (n * 10 + (c.toNat - '0'.toNat))
    have hlimit : ¬ limit < n * 10 + (c.toNat - '0'.toNat) := by omega
    rw [takeDigits, if_neg hlimit]
    exact ih h

/-- Digits that are all taken in are those of a number within the limit. -/
theorem takeDigits_all {limit : Nat} {cs : List Char} {n : Nat} (hn : n ≤ limit) (h : (takeDigits limit n cs).2 = []) :
    takeDigits limit n cs = (Nat.ofDigitChars 10 cs n, []) ∧ Nat.ofDigitChars 10 cs n ≤ limit := by
  induction cs generalizing n with
  | nil => exact ⟨rfl, hn⟩
  | cons c cs ih =>
    rw [Nat.ofDigitChars_cons, Nat.mul_comm]
    rw [takeDigits] at h ⊢
    split at h
    · cases h
    next hnext =>
      rw [if_neg hnext]
      exact ih (Nat.not_lt.mp hnext) h

/-- A number with a power of ten that the format holds is a product, which may leave the format. -/
theorem scaled_natCast (significand : Nat) {power : Nat} (h : power ≤ 308) :
    scaled significand power =
      if (double significand * double (Nat.pow 10 power)).isInf then .error .numberTooLarge
      else .ok (double significand * double (Nat.pow 10 power)) := by
  have hneg : ¬ (power : Int) < 0 := by omega
  have hle : (power : Int) ≤ 308 := by omega
  simp only [scaled, hneg, hle, if_false, if_true, Int.toNat_natCast]

theorem withPower_some (significand : Nat) (power : Int) {p : PowerOfTen} {n : Nat}
    (h : takeDigits 2147483647 0 p.digits = (n, [])) :
    withPower significand power (some p) =
      scaled significand (if p.sign == .minus then power - n else power + n) := by
  simp only [withPower, h, List.isEmpty_nil, if_true]

/-- The value that an integer of 64 bits has as a number. -/
def Number.ofInt (n : Int) : Number := if n < 0 then .negative n.natAbs else .natural n.natAbs

/-- **A numeral that is written as an integer of 64 bits has this integer as its value**, unless it is minus
zero. -/
theorem numeralValue_integer {n : Numeral} {k : Int} (hwhole : n.isWhole = true) (hvalue : n.integer = k)
    (hsigned : n.negative = true → k ≠ 0) (hleast : -9223372036854775808 ≤ k)
    (hgreatest : k ≤ 18446744073709551615) : numeralValue n = .ok (Number.ofInt k) := by
  unfold Numeral.integer at hvalue
  have htaken : takeDigits wordMax 0 n.whole = (Nat.ofDigitChars 10 n.whole 0, []) :=
    takeDigits_eq (by unfold wordMax; split at hvalue <;> omega)
  unfold numeralValue Number.ofInt
  simp only [htaken, hwhole, List.isEmpty_nil, Bool.and_self, if_true]
  cases hneg : n.negative with
  | false =>
    simp only [hneg, Bool.false_eq_true, if_false] at hvalue
    have hpos : ¬ k < 0 := by omega
    have habs : k.natAbs = Nat.ofDigitChars 10 n.whole 0 := by omega
    simp [hpos, habs]
  | true =>
    simp only [hneg, if_true] at hvalue
    have hnonzero := hsigned hneg
    have hnegative : k < 0 := by omega
    have habs : k.natAbs = Nat.ofDigitChars 10 n.whole 0 := by omega
    have hsize : 0 < Nat.ofDigitChars 10 n.whole 0 ∧ Nat.ofDigitChars 10 n.whole 0 ≤ 9223372036854775808 := by omega
    simp [hnegative, habs, hsize]

/-- **An integer of 64 bits, with a sign or without, is the value of its numeral.** -/
theorem numeralValue_ofInt {n : Int} (hleast : -9223372036854775808 ≤ n) (hgreatest : n ≤ 18446744073709551615) :
    numeralValue (.ofInt n) = .ok (Number.ofInt n) := by
  refine numeralValue_integer rfl (integer_ofInt n) (fun hneg => ?_) hleast hgreatest
  have hless : n < 0 := of_decide_eq_true hneg
  omega

end Json

end Dataflow
