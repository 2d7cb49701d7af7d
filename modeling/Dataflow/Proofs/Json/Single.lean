/-
The numerals of single precision numbers. A finite number has a numeral, which
keeps a fraction or a power of ten (`ofSingle_of_finite`), so it is not one of
an integer; the other numbers have none (`ofSingle_of_not_finite`).
-/
import Dataflow.Json.Basic
import Dataflow.Proofs.Json.Numeral

namespace Dataflow

namespace Numeric

/-! ## Layouts -/

theorem splitPlaces_eq (digits : List Char) (places : Nat) :
    ∃ whole fraction, splitPlaces digits places = (whole, fraction) ∧ fraction.length = places ∧
      whole ++ fraction = List.replicate (places + 1 - digits.length) '0' ++ digits := by
  refine ⟨_, _, List.splitAt_eq .., ?_, List.take_append_drop ..⟩
  simp only [List.length_drop, List.length_append, List.length_replicate]
  omega

/-- A whole number written with places is a sound whole part and a fraction of so many digits. -/
theorem splitPlaces_toDigits (n places : Nat) :
    ∃ whole fraction, splitPlaces (Nat.toDigits 10 n) places = (whole, fraction) ∧ fraction.length = places ∧
      AllDigits whole ∧ whole ≠ [] ∧ (whole.head? = some '0' → whole = ['0']) ∧ AllDigits fraction := by
  obtain ⟨whole, fraction, hsplit, hplaces, hall⟩ := splitPlaces_eq (Nat.toDigits 10 n) places
  have hdigits : AllDigits (whole ++ fraction) := hall ▸ (allDigits_zeros _).append (allDigits_toDigits n)
  obtain ⟨hwhole, hfraction⟩ := List.forall_mem_append.mp hdigits
  have hlength := congrArg List.length hall
  simp only [List.length_append, List.length_replicate, hplaces] at hlength
  have hpositive : 0 < whole.length := by omega
  refine ⟨whole, fraction, hsplit, hplaces, hwhole, List.length_pos_iff.mp hpositive, fun hhead => ?_, hfraction⟩
  obtain ⟨c, rest, rfl⟩ := List.exists_cons_of_length_pos hpositive
  by_cases hshort : (Nat.toDigits 10 n).length ≤ places
  · -- The digits are filled up with zeros, the first of which is the whole part.
    have hone : rest.length = 0 := by
      rw [List.length_cons] at hlength
      omega
    rw [List.eq_nil_of_length_eq_zero hone]
    exact congrArg (· :: []) (Option.some.inj hhead)
  · have hzeros : places + 1 - (Nat.toDigits 10 n).length = 0 := by omega
    rw [hzeros, List.replicate_zero, List.nil_append] at hall
    have hfirst : (Nat.toDigits 10 n).head? = some '0' := by rw [← hall]; exact hhead
    rw [toDigits_leading hfirst] at hall
    rw [List.cons_append, List.cons.injEq, List.append_eq_nil_iff] at hall
    rw [hall.1, hall.2.1]

theorem sound_positionalNumeral (l : Layout) (negative : Bool) (d : Decimal) :
    (l.positionalNumeral negative d).Sound := by
  obtain ⟨whole, fraction, hsplit, -, hwhole, hnonempty, hleading, hfraction⟩ :=
    splitPlaces_toDigits (d.digits * Nat.pow 10 d.exponent.toNat) (-d.exponent).toNat
  unfold Layout.positionalNumeral
  simp only [hsplit]
  refine ⟨hwhole, hnonempty, hleading, ?_, by simp⟩
  split
  · simp [AllDigits, Json.isDigit]
  · exact hfraction

theorem sound_scientificNumeral (negative : Bool) {d : Decimal} (h : d.digits ≠ 0) :
    (scientificNumeral negative d).Sound := by
  have hdigits := allDigits_toDigits d.digits
  refine ⟨fun c hc => hdigits c (List.mem_of_mem_take hc), ?_, fun hhead => ?_,
    fun c hc => hdigits c (List.mem_of_mem_drop hc), ?_⟩
  · simp [scientificNumeral, Nat.toDigits_ne_nil]
  · have hfirst : (Nat.toDigits 10 d.digits).head? = some '0' := by
      simpa [scientificNumeral, List.head?_take] using hhead
    exact absurd (head?_toDigits hfirst) h
  · rintro p hp
    cases hp
    exact ⟨Nat.toDigits_ne_nil, allDigits_toDigits _⟩

theorem numeral_cases (l : Layout) (negative : Bool) (d : Decimal) :
    l.numeral negative d = l.positionalNumeral negative d ∨
      d.digits ≠ 0 ∧ l.numeral negative d = scientificNumeral negative d := by
  unfold Layout.numeral
  by_cases hzero : d.digits = 0
  · exact .inl (by simp [hzero])
  · simp only
    generalize (d.digits == 0 || _ : Bool) = positional
    cases positional with
    | true => exact .inl rfl
    | false => exact .inr ⟨hzero, rfl⟩

theorem sound_numeral (l : Layout) (negative : Bool) (d : Decimal) : (l.numeral negative d).Sound := by
  rcases numeral_cases l negative d with h | ⟨hdigits, h⟩
  · rw [h]; exact sound_positionalNumeral l negative d
  · rw [h]; exact sound_scientificNumeral negative hdigits

theorem isWhole_numeral {l : Layout} (hkeeps : l.keepsFraction = true) (negative : Bool) (d : Decimal) :
    (l.numeral negative d).isWhole = false := by
  rcases numeral_cases l negative d with h | ⟨-, h⟩
  · rw [h]
    unfold Layout.positionalNumeral Numeral.isWhole
    simp only [hkeeps, Bool.and_true, Option.isNone_none]
    split
    · rfl
    next hfraction => simpa using hfraction
  · rw [h]
    simp [Numeral.isWhole, scientificNumeral]

/-! ## Finite numbers -/

def BinaryFormat.Full (f : BinaryFormat) (bits : Nat) : Prop :=
  bits / Nat.pow 2 f.fractionBits % Nat.pow 2 f.exponentBits = Nat.pow 2 f.exponentBits - 1

theorem BinaryFormat.unpack_finite_iff (f : BinaryFormat) (bits : Nat) :
    (∃ negative mantissa exponent, f.unpack bits = .finite negative mantissa exponent) ↔ ¬ f.Full bits := by
  unfold unpack
  by_cases hfull : f.Full bits
  · have hinfinite := hfull
    unfold Full at hinfinite
    simp only [hinfinite, if_true]
    split <;> simp [hfull]
  · have hfinite := hfull
    unfold Full at hfinite
    simp only [hfinite, if_false]
    split <;> simp [hfull]

open Float.Model.UnpackedFloat in
theorem isFinite_iff_not_full (x : Float32) : x.isFinite = true ↔ ¬ BinaryFormat.binary32.Full x.toBits.toNat := by
  have hmodel : x.isFinite = (unpack .binary32 x.toBits.toBitVec).isFinite := rfl
  have hfield : @unpackExponent .binary32 x.toBits.toBitVec = -1#8 ↔ BinaryFormat.binary32.Full x.toBits.toNat := by
    rw [← BitVec.toNat_inj]
    simp only [unpackExponent, BitVec.toNat_cast, BitVec.extractLsb_toNat, Nat.shiftRight_eq_div_pow]
    exact Iff.rfl
  rw [hmodel, ← hfield]
  unfold unpack
  by_cases hfull : @unpackExponent .binary32 x.toBits.toBitVec = -1#8
  · rw [if_pos hfull]
    split <;> exact iff_of_false Bool.false_ne_true (not_not_intro hfull)
  · refine iff_of_true ?_ hfull
    rw [if_neg hfull]
    -- A number is zero, subnormal or normal then.
    by_cases hlow : @unpackExponent .binary32 x.toBits.toBitVec = 0#8
    · rw [if_pos hlow]
      by_cases hzero : @unpackMantissa .binary32 x.toBits.toBitVec = 0#23
      · rw [dif_pos hzero]; rfl
      · rw [dif_neg hzero]; rfl
    · rw [if_neg hlow]; rfl

/-- **A number is finite when it stands for a mantissa and a power of two.** -/
theorem isFinite_iff (x : Float32) :
    x.isFinite = true ↔ ∃ negative mantissa exponent, unpack32 x = .finite negative mantissa exponent :=
  (isFinite_iff_not_full x).trans (BinaryFormat.binary32.unpack_finite_iff x.toBits.toNat).symm

end Numeric

namespace Json

open Numeric

theorem ofSingle_of_finite {x : Float32} (h : x.isFinite = true) :
    ∃ n, ofSingle x = .number n ∧ n.Sound ∧ n.isWhole = false := by
  obtain ⟨negative, mantissa, exponent, hx⟩ := (isFinite_iff x).mp h
  simp only [ofSingle, hx]
  exact ⟨_, rfl, sound_numeral .., isWhole_numeral rfl ..⟩

theorem ofSingle_of_not_finite {x : Float32} (h : x.isFinite = false) : ofSingle x = .null := by
  unfold ofSingle
  cases hx : unpack32 x with
  | finite negative mantissa exponent =>
    rw [(isFinite_iff x).mpr ⟨negative, mantissa, exponent, hx⟩] at h
    cases h
  | nan => rfl
  | infinite negative => rfl

end Json

end Dataflow
