/-
Numerals with so few places before the point that they have a value
(`numeralValue_of_short`). The places are those of the whole part and those that
the power of ten asks for, whatever its sign. The numerals of integers of 64 bits
and of single precision numbers have far fewer than double precision has room for,
and a numeral that is cut has no more of them than before.
-/
import Dataflow.Proofs.Json.Broken
import Dataflow.Proofs.Json.Single
import Dataflow.Proofs.Numeric.Product

namespace Dataflow

open Json

namespace Numeric.Numeral

def powerSize (n : Numeral) : Nat := n.power.elim 0 fun p => Nat.ofDigitChars 10 p.digits 0

/-- The numeral has two hundred places before the point at most. -/
def Short (n : Numeral) : Prop := n.whole.length + n.powerSize ≤ 200

end Numeric.Numeral

namespace Json

open Numeric

/-! ## Values -/

theorem takeDigits_le {limit n : Nat} (h : n ≤ limit) (cs : List Char) :
    (takeDigits limit n cs).1 ≤ limit ∧ (takeDigits limit n cs).2.length ≤ cs.length := by
  induction cs generalizing n with
  | nil => exact ⟨h, Nat.le_refl _⟩
  | cons c cs ih =>
    rw [takeDigits]
    split
    · exact ⟨h, Nat.le_refl _⟩
    next hnext =>
      obtain ⟨hlimit, hlength⟩ := ih (Nat.not_lt.mp hnext)
      exact ⟨hlimit, Nat.le_succ_of_le hlength⟩

theorem log2_ten_pow_le (power : Nat) : (10 ^ power).log2 ≤ 4 * power := by
  refine log2_le_of_lt ?_
  have hle : 10 ^ power ≤ 16 ^ power := Nat.pow_le_pow_left (by decide) power
  have hbits : 16 ^ power = 2 ^ (4 * power) := (Nat.pow_mul 2 4 power).symm
  have hdouble : 2 ^ (4 * power + 1) = 2 ^ (4 * power) * 2 := Nat.pow_succ ..
  have hpos := Nat.two_pow_pos (4 * power)
  omega

theorem scaled_ok {significand : Nat} {power : Int} (hword : significand ≤ wordMax) (hpower : power ≤ 200) :
    ∃ x, scaled significand power = .ok x := by
  by_cases hneg : power < 0
  · exact ⟨_, if_pos hneg⟩
  · obtain ⟨p, rfl⟩ := Int.eq_ofNat_of_zero_le (Int.not_lt.mp hneg)
    have hbits : significand.log2 ≤ 63 := log2_le_of_lt (Nat.lt_succ_of_le hword)
    have hten := log2_ten_pow_le p
    have hfinite : (double significand * double (Nat.pow 10 p)).isInf = false :=
      product_not_isInf (by rw [Nat.pow_eq]; omega)
    refine ⟨double significand * double (Nat.pow 10 p), ?_⟩
    rw [scaled_natCast significand (by omega), hfinite]
    rfl

theorem magnitude_of_short {n : Numeral} (h : n.Short) : ∃ x, magnitude n = .ok x := by
  unfold magnitude
  obtain ⟨hwhole, hexcess⟩ := takeDigits_le (Nat.zero_le wordMax) n.whole
  obtain ⟨hword, hrest⟩ := takeDigits_le hwhole n.fraction
  generalize takeDigits wordMax 0 n.whole = whole at *
  obtain ⟨whole, excess⟩ := whole
  simp only at *
  generalize takeDigits wordMax whole n.fraction = all at *
  obtain ⟨significand, rest⟩ := all
  simp only at *
  have hshort : n.whole.length + n.powerSize ≤ 200 := h
  cases hp : n.power with
  | none => exact scaled_ok hword (by omega)
  | some p =>
    have hsize : n.powerSize = Nat.ofDigitChars 10 p.digits 0 := by rw [Numeral.powerSize, hp]; rfl
    rw [withPower_some significand _ (takeDigits_eq (by omega : Nat.ofDigitChars 10 p.digits 0 ≤ 2147483647))]
    refine scaled_ok hword ?_
    split <;> omega

/-- **A short numeral has a value.** -/
theorem numeralValue_of_short {n : Numeral} (h : n.Short) : ∃ v, numeralValue n = .ok v := by
  obtain ⟨x, hx⟩ := magnitude_of_short h
  unfold numeralValue
  simp only [hx]
  split
  · split
    · exact ⟨_, rfl⟩
    · split <;> exact ⟨_, rfl⟩
  · exact ⟨_, rfl⟩

end Json

namespace Numeric

/-! ## Integers -/

theorem Numeral.short_ofInt {n : Int} (hleast : -9223372036854775808 ≤ n) (hgreatest : n ≤ 18446744073709551615) :
    (Numeral.ofInt n).Short := by
  have hlength : (Nat.toDigits 10 n.natAbs).length ≤ 20 :=
    (Nat.length_toDigits_le_iff (by decide) (by decide)).mpr (by omega)
  exact Nat.le_trans hlength (by decide)

/-! ## Single precision numbers -/

theorem unpack32_bounds {x : Float32} {negative : Bool} {mantissa : Nat} {exponent : Int}
    (h : unpack32 x = .finite negative mantissa exponent) : mantissa < 2 ^ 24 ∧ -149 ≤ exponent ∧ exponent ≤ 104 := by
  have hleast : BinaryFormat.binary32.leastExponent = -149 := by decide
  have hfraction : Nat.pow 2 BinaryFormat.binary32.fractionBits = 2 ^ 23 := rfl
  have hexponent : Nat.pow 2 BinaryFormat.binary32.exponentBits = 2 ^ 8 := rfl
  unfold unpack32 BinaryFormat.unpack at h
  simp only [hleast, hfraction, hexponent] at h
  split at h
  · split at h <;> cases h
  · split at h
    · cases h
      omega
    · cases h
      omega

/-- A point of a grid is at most one above the number that it stands for. -/
theorem Rounding.onGrid_le {r : Rounding} {tie : Tie} {k : Int} {digits : Nat} (h : r.onGrid tie k = some digits) :
    digits ≤ r.centre * (2 ^ r.exponent.toNat * 10 ^ (-k).toNat) + 1 := by
  unfold onGrid at h
  simp only [Nat.pow_eq] at h
  generalize r.centre * (2 ^ r.exponent.toNat * 10 ^ (-k).toNat) = centre at h ⊢
  have hunder := Nat.div_le_self centre (10 ^ k.toNat * 2 ^ (-r.exponent).toNat)
  generalize centre / (10 ^ k.toNat * 2 ^ (-r.exponent).toNat) = under at h hunder
  have hpick : tie.pick under ≤ under + 1 := by
    cases tie with
    | toEven =>
      have hmod := Nat.mod_lt under (show 0 < 2 by decide)
      simp only [Tie.pick]
      omega
    | away => exact Nat.le_refl _
  split at h
  · split at h
    · cases h; omega
    · split at h <;> (cases h; omega)
  · split at h
    · cases h; omega
    · split at h
      · cases h; omega
      · cases h

theorem Rounding.search_on_grid (r : Rounding) (tie : Tie) (tries : Nat) (k : Int) :
    (r.search tie tries k).exponent ≤ k ∧ k - tries ≤ (r.search tie tries k).exponent ∧
      ((r.search tie tries k).digits = 0 ∨
        r.onGrid tie (r.search tie tries k).exponent = some (r.search tie tries k).digits) := by
  induction tries generalizing k with
  | zero => exact ⟨Int.le_refl _, by simp [search], .inl rfl⟩
  | succ tries ih =>
    unfold search
    split
    next digits hdigits => exact ⟨Int.le_refl _, by simp only; omega, .inr hdigits⟩
    next =>
      obtain ⟨hle, hge, hgrid⟩ := ih (k - 1)
      exact ⟨by omega, by omega, hgrid⟩

/-- The shortest digits of a single precision number are few, and not far from the point. -/
theorem shortest_bounds {mantissa : Nat} {exponent : Int} (tie : Tie) (hmantissa : mantissa < 2 ^ 24)
    (hleast : -149 ≤ exponent) (hgreatest : exponent ≤ 104) :
    -68 ≤ (BinaryFormat.binary32.shortest tie mantissa exponent).exponent ∧
      (BinaryFormat.binary32.shortest tie mantissa exponent).exponent ≤ 39 ∧
      (BinaryFormat.binary32.shortest tie mantissa exponent).digits < 10 ^ 107 := by
  unfold BinaryFormat.shortest
  split
  · decide
  · have hbound : -44 ≤ decimalBound mantissa exponent ∧ decimalBound mantissa exponent ≤ 39 := by
      have hbits : mantissa.log2 ≤ 23 := log2_le_of_lt hmantissa
      unfold decimalBound
      omega
    obtain ⟨hle, hge, hgrid⟩ := (BinaryFormat.binary32.rounding mantissa exponent).search_on_grid tie 24
      (decimalBound mantissa exponent)
    generalize (BinaryFormat.binary32.rounding mantissa exponent).search tie 24
      (decimalBound mantissa exponent) = d at *
    refine ⟨by omega, by omega, ?_⟩
    rcases hgrid with hzero | hgrid
    · rw [hzero]
      decide
    · have hpoint : d.digits ≤ 4 * mantissa * (2 ^ (exponent - 2).toNat * 10 ^ (-d.exponent).toNat) + 1 :=
        Rounding.onGrid_le hgrid
      have htwo : 2 ^ (exponent - 2).toNat ≤ 2 ^ 102 := Nat.pow_le_pow_right (by decide) (by omega)
      have hten : 10 ^ (-d.exponent).toNat ≤ 10 ^ 68 := Nat.pow_le_pow_right (by decide) (by omega)
      have hscaled := Nat.mul_le_mul (show 4 * mantissa ≤ 2 ^ 26 by omega) (Nat.mul_le_mul htwo hten)
      have hroom : 2 ^ 26 * (2 ^ 102 * 10 ^ 68) + 1 < 10 ^ 107 := by decide
      exact Nat.lt_of_le_of_lt (Nat.le_trans hpoint (Nat.add_le_add_right hscaled 1)) hroom

theorem Numeral.short_positional (l : Layout) (negative : Bool) {d : Decimal} (hdigits : d.digits < 10 ^ 107)
    (hgreatest : d.exponent ≤ 39) : (l.positionalNumeral negative d).Short := by
  obtain ⟨whole, fraction, hsplit, hplaces, hall⟩ :=
    splitPlaces_eq (Nat.toDigits 10 (d.digits * Nat.pow 10 d.exponent.toNat)) (-d.exponent).toNat
  have hlength : (Nat.toDigits 10 (d.digits * Nat.pow 10 d.exponent.toNat)).length ≤ 146 := by
    refine (Nat.length_toDigits_le_iff (by decide) (by decide)).mpr ?_
    have hten : 10 ^ d.exponent.toNat ≤ 10 ^ 39 := Nat.pow_le_pow_right (by decide) (by omega)
    exact Nat.lt_of_le_of_lt (Nat.mul_le_mul_left _ hten) (Nat.mul_lt_mul_of_pos_right hdigits (by decide))
  have hsum := congrArg List.length hall
  simp only [List.length_append, List.length_replicate] at hsum
  have hwhole : whole.length ≤ 200 := by omega
  unfold Layout.positionalNumeral
  simp only [hsplit]
  exact hwhole

theorem Numeral.short_scientific (negative : Bool) {d : Decimal} (hdigits : d.digits < 10 ^ 107)
    (hleast : -68 ≤ d.exponent) (hgreatest : d.exponent ≤ 39) : (scientificNumeral negative d).Short := by
  have hlength : (Nat.toDigits 10 d.digits).length ≤ 107 :=
    (Nat.length_toDigits_le_iff (by decide) (by decide)).mpr hdigits
  have hwhole : ((Nat.toDigits 10 d.digits).take 1).length ≤ 1 := List.length_take_le ..
  have hpower : Nat.ofDigitChars 10
      (Nat.toDigits 10 (d.exponent + (Nat.toDigits 10 d.digits).length - 1).natAbs) 0 ≤ 146 := by
    rw [Nat.ofDigitChars_ten_toDigits]
    omega
  exact Nat.le_trans (Nat.add_le_add hwhole hpower) (by decide)

/-- **The numeral of a single precision number is short.** -/
theorem Numeral.short_shortest (l : Layout) (negative : Bool) {mantissa : Nat} {exponent : Int}
    (hmantissa : mantissa < 2 ^ 24) (hleast : -149 ≤ exponent) (hgreatest : exponent ≤ 104) :
    (l.shortest .binary32 negative mantissa exponent).Short := by
  obtain ⟨hlow, hhigh, hdigits⟩ := shortest_bounds l.tie hmantissa hleast hgreatest
  unfold Layout.shortest
  rcases numeral_cases l negative (BinaryFormat.binary32.shortest l.tie mantissa exponent) with h | ⟨-, h⟩
  · rw [h]
    exact short_positional l negative hdigits hhigh
  · rw [h]
    exact short_scientific negative hdigits hlow hhigh

end Numeric

namespace Json

open Numeric

theorem ofSingle_short {x : Float32} (h : x.isFinite = true) : ∃ n, ofSingle x = .number n ∧ n.Sound ∧ n.Short := by
  obtain ⟨negative, mantissa, exponent, hx⟩ := (isFinite_iff x).mp h
  obtain ⟨hmantissa, hleast, hgreatest⟩ := unpack32_bounds hx
  simp only [ofSingle, hx]
  exact ⟨_, rfl, sound_numeral .., Numeral.short_shortest _ _ hmantissa hleast hgreatest⟩

end Json

/-! ## Shorter numerals -/

theorem ofDigitChars_le_of_begins {digits more : List Char} (h : digits <+: more) :
    Nat.ofDigitChars 10 digits 0 ≤ Nat.ofDigitChars 10 more 0 := by
  obtain ⟨rest, rfl⟩ := h
  rw [Nat.ofDigitChars_append, Nat.ofDigitChars_eq_ofDigitChars_zero (l := rest)]
  have hpos : 0 < 10 ^ rest.length := Nat.pow_pos (by decide)
  exact Nat.le_trans (Nat.le_mul_of_pos_left _ hpos) (Nat.le_add_right ..)

theorem Numeric.Numeral.Shortened.short {n n' : Numeric.Numeral} (h : n.Shortened n') (hn : n.Short) : n'.Short := by
  have hplaces : n.whole.length + n.powerSize ≤ 200 := hn
  cases h with
  | whole hsome h =>
    have hlength := h.length_le
    exact Nat.le_trans hlength (by omega)
  | fraction hsome h => exact Nat.le_trans (Nat.le_add_right _ _) hplaces
  | @power p digits hp hsome h =>
    have hsize : n.powerSize = Nat.ofDigitChars 10 p.digits 0 := by rw [Numeric.Numeral.powerSize, hp]; rfl
    exact Nat.le_trans (Nat.add_le_add_left (ofDigitChars_le_of_begins h) _) (hsize ▸ hplaces)

theorem ofDigitChars_pos {digits : List Char} (hdigits : Numeric.AllDigits digits) (hsome : digits ≠ [])
    (hleading : digits.head? ≠ some '0') : 0 < Nat.ofDigitChars 10 digits 0 := by
  obtain ⟨c, rest, rfl⟩ := List.exists_cons_of_ne_nil hsome
  have hdigit : isDigit c = true := hdigits c (.head _)
  have hc : '0'.toNat < c.toNat := by
    simp only [isDigit, Bool.and_eq_true, decide_eq_true_eq] at hdigit
    refine Nat.lt_of_le_of_ne hdigit.1 fun h => hleading ?_
    rw [Char.toNat_inj.mp h]
    rfl
  rw [Nat.ofDigitChars_cons, Nat.ofDigitChars_eq_ofDigitChars_zero]
  have hpos : 0 < 10 ^ rest.length * (10 * 0 + (c.toNat - '0'.toNat)) :=
    Nat.mul_pos (Nat.pow_pos (by decide)) (by omega)
  omega

/-- An integer that is cut is one between zero and itself. -/
theorem numeralValue_shortened {n : Int} {n' : Numeric.Numeral} (h : (Numeric.Numeral.ofInt n).Shortened n')
    (hleast : -9223372036854775808 ≤ n) (hgreatest : n ≤ 18446744073709551615) :
    ∃ k, numeralValue n' = .ok (Number.ofInt k) ∧ (0 ≤ k ∧ k ≤ n ∨ n ≤ k ∧ k ≤ 0) := by
  cases h with
  | @whole digits hsome h =>
    have hle : Nat.ofDigitChars 10 digits 0 ≤ n.natAbs := by
      rw [← Nat.ofDigitChars_ten_toDigits (n := n.natAbs)]
      exact ofDigitChars_le_of_begins h
    have hpos : n < 0 → 0 < Nat.ofDigitChars 10 digits 0 := by
      intro hneg
      refine ofDigitChars_pos ((Numeric.allDigits_toDigits _).begins h) hsome fun hhead => ?_
      obtain ⟨rest, hrest⟩ : digits <+: Nat.toDigits 10 n.natAbs := h
      have hfirst : (Nat.toDigits 10 n.natAbs).head? = some '0' := by
        rw [← hrest, List.head?_append, hhead]
        rfl
      have := Numeric.head?_toDigits hfirst
      omega
    have hinteger : Numeric.Numeral.integer ⟨(Numeric.Numeral.ofInt n).negative, digits, [], none⟩ =
        if n < 0 then -(Nat.ofDigitChars 10 digits 0 : Int) else Nat.ofDigitChars 10 digits 0 := by
      simp only [Numeric.Numeral.integer, Numeric.Numeral.ofInt, decide_eq_true_eq]
    refine ⟨_, numeralValue_integer rfl hinteger (fun hneg => ?_) ?_ ?_, ?_⟩
    · have hless : n < 0 := of_decide_eq_true hneg
      rw [if_pos hless]
      have := hpos hless
      omega
    · split <;> omega
    · split <;> omega
    · split <;> omega
  | fraction hsome h => exact absurd (List.prefix_nil.mp h) hsome
  | power hp => cases hp

end Dataflow
