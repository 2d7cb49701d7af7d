/-
The tokens of a text that ends too early. A numeral may end behind any of its digits,
and is then a shorter numeral (`Shortened`); where it ends behind anything else, and
where a word or a text ends before it is complete, the token is broken, and its fault
for a reader that wants the value is the end of the text.
-/
import Dataflow.Proofs.Json.Assembly

namespace Dataflow

open Json

namespace Numeric

theorem AllDigits.begins {cs ds : List Char} (h : AllDigits ds) (hbegins : cs <+: ds) : AllDigits cs := fun c hc =>
  h c (hbegins.subset hc)

/-- A numeral that ends behind one of the digits of another one. -/
inductive Numeral.Shortened (n : Numeral) : Numeral → Prop
  | whole {digits : List Char} (hsome : digits ≠ []) (h : digits <+: n.whole) :
    n.Shortened ⟨n.negative, digits, [], none⟩
  | fraction {digits : List Char} (hsome : digits ≠ []) (h : digits <+: n.fraction) :
    n.Shortened ⟨n.negative, n.whole, digits, none⟩
  | power {p : PowerOfTen} {digits : List Char} (hp : n.power = some p) (hsome : digits ≠ [])
    (h : digits <+: p.digits) : n.Shortened ⟨n.negative, n.whole, n.fraction, some ⟨p.sign, digits⟩⟩

end Numeric

namespace Json

open Numeric

theorem split_append {p t a b : List Char} (h : p ++ t = a ++ b) :
    (∃ c, c ≠ [] ∧ p ++ c = a) ∨ ∃ q, p = a ++ q ∧ q ++ t = b := by
  rcases List.append_eq_append_iff.mp h with ⟨c, rfl, ht⟩ | ⟨q, rfl, hb⟩
  · cases c with
    | nil => exact .inr ⟨[], by simp, ht⟩
    | cons x c => exact .inl ⟨x :: c, by simp, rfl⟩
  · exact .inr ⟨q, rfl, hb.symm⟩

theorem eq_take_of_append {p t l : List Char} (h : p ++ t = l) (ht : t ≠ []) : ∃ n, n < l.length ∧ p = l.take n := by
  have hpos := List.length_pos_iff.mpr ht
  refine ⟨p.length, ?_, by rw [← h, List.take_left]⟩
  rw [← h, List.length_append]
  omega

/-- Where not even the last character is there, the beginning is one of what stands in front of it. -/
theorem split_closed {p t a : List Char} {last : Char} (h : p ++ t = a ++ [last]) (ht : t ≠ []) :
    ∃ q, p ++ q = a := by
  rcases split_append h with ⟨c, -, hcut⟩ | ⟨q, rfl, hq⟩
  · exact ⟨c, hcut⟩
  · obtain ⟨n, hn, rfl⟩ := eq_take_of_append hq ht
    match n, hn with
    | 0, _ => exact ⟨[], by simp⟩

/-! ## Words -/

theorem scanFrom_word_cut {next : Char} {missing p t : List Char} (w : Word) (h : p ++ t = next :: missing)
    (ht : t ≠ []) : scanFrom (.word next missing w) p = [brokenToken .endOfValue .endOfValue] := by
  induction p generalizing next missing with
  | nil => rfl
  | cons c p ih =>
    obtain ⟨rfl, hrest⟩ := List.cons.inj h
    cases missing with
    | nil => exact absurd (List.append_eq_nil_iff.mp hrest).2 ht
    | cons letter missing =>
      have hstep : stepMode (.word c (letter :: missing) w) c = (.word letter missing w, []) := by
        simp only [stepMode, bne_self_eq_false, Bool.false_eq_true, if_false]
      rw [scanFrom, hstep]
      exact ih hrest

/-! ## Texts -/

theorem put_spelled {p : Piece} {cs : List Char} (h : spell [p] = .ok cs) (read : List Char) :
    ∃ read', p.put { read } = { read := read' } := by
  cases p with
  | plain c hc => exact ⟨_, rfl⟩
  | letter c meant hc => exact ⟨_, rfl⟩
  | code x =>
    have hspell : spell [.code x] = if x.isLow then .error .loneSurrogate
      else if x.isHigh then .error .halfPair else .ok [.ofNat x.value] := by
      rw [spell.eq_def]
      rfl
    rw [hspell] at h
    rw [put_code]
    split at h
    · cases h
    next hlow =>
      rw [if_neg hlow]
      split at h
      · cases h
      next hhigh => exact ⟨_, if_neg hhigh⟩

theorem scanFrom_escapeChar (c : Char) (read rest : List Char) :
    ∃ read', scanFrom (.text { read } .plain) (escapeChar c ++ rest) =
      scanFrom (.text { read := read' } .plain) rest := by
  obtain ⟨p, hp, hspell⟩ := exists_piece c
  have hspelled : spell [p] = .ok [c] := hspell []
  obtain ⟨read', hput⟩ := put_spelled hspelled read
  exact ⟨read', by rw [← hp, scanFrom_piece, hput]⟩

theorem escapeChar_cases (c : Char) : (∃ x, escapeChar c = [x]) ∨ (∃ x, escapeChar c = ['\\', x]) ∨
    ∃ m n, escapeChar c = ['\\', 'u', '0', '0', hexDigit m, hexDigit n] := by
  unfold escapeChar
  iterate 7
    split
    · exact .inr (.inl ⟨_, rfl⟩)
  split
  · exact .inr (.inr ⟨_, _, rfl⟩)
  · exact .inl ⟨_, rfl⟩

/-- A text that ends inside of what is written for a character. -/
theorem scanFrom_escapeChar_cut {c : Char} {p t : List Char} (h : p ++ t = escapeChar c) (ht : t ≠ [])
    (read : List Char) : scanFrom (.text { read } .plain) p = [.brokenText (.all .endOfText)] := by
  have hdigit (n : Nat) : scanFrom (.text { read } .plain) ['\\', 'u', '0', '0', hexDigit n] =
      [.brokenText (.all .endOfText)] := by
    have hsize : (hexDigit n).utf8Size = 1 := (HexDigit.sound ⟨⟨n % 16, Nat.mod_lt _ (by decide)⟩, false⟩).2
    have hstart : scanFrom (.text { read } .plain) ['\\', 'u', '0', '0', hexDigit n] =
        scanFrom (.text { read } (.code 0 2 true)) [hexDigit n] := rfl
    rw [hstart]
    simp only [scanFrom, stepMode, stepText, hsize]
    rfl
  obtain ⟨n, hn, rfl⟩ := eq_take_of_append h ht
  rcases escapeChar_cases c with ⟨x, hx⟩ | ⟨x, hx⟩ | ⟨m, m', hx⟩
  · rw [hx] at hn ⊢
    obtain rfl : n = 0 := Nat.lt_one_iff.mp hn
    rfl
  · rw [hx] at hn ⊢
    rcases n with _ | _ | n
    · rfl
    · rfl
    · exact absurd hn (Nat.not_lt.mpr (Nat.le_add_left 2 n))
  · rw [hx] at hn ⊢
    rcases n with _ | _ | _ | _ | _ | _ | n
    · rfl
    · rfl
    · rfl
    · rfl
    · rfl
    · exact hdigit m
    · exact absurd hn (Nat.not_lt.mpr (Nat.le_add_left 6 n))

theorem scanFrom_chars_cut {cs p t : List Char} (h : p ++ t = cs.flatMap escapeChar) (read : List Char) :
    scanFrom (.text { read } .plain) p = [.brokenText (.all .endOfText)] := by
  induction cs generalizing p read with
  | nil =>
    rw [(List.append_eq_nil_iff.mp h).1]
    rfl
  | cons c cs ih =>
    rw [List.flatMap_cons] at h
    rcases split_append h with ⟨rest, hrest, hcut⟩ | ⟨q, rfl, hq⟩
    · exact scanFrom_escapeChar_cut hcut hrest read
    · obtain ⟨read', hread⟩ := scanFrom_escapeChar c read q
      rw [hread]
      exact ih hq read'

/-- **A text that is cut is broken by its end.** -/
theorem scanFrom_text_cut {s : String} {p t : List Char} (h : p ++ t = textChars s) (hp : p ≠ []) (ht : t ≠ []) :
    scanFrom .between p = [.brokenText (.all .endOfText)] := by
  obtain ⟨c, p, rfl⟩ := List.exists_cons_of_ne_nil hp
  obtain ⟨rfl, hrest⟩ := List.cons.inj h
  have hopened : scanFrom .between ('"' :: p) = scanFrom (.text {} .plain) p := rfl
  rw [hopened]
  obtain ⟨q, hq⟩ := split_closed hrest ht
  exact scanFrom_chars_cut hq []

/-! ## Numerals -/

theorem scanFrom_numeral_end (d : Digits) (part : NumeralPart) :
    scanFrom (.numeral d part) [] =
      if part.mayEnd then [.number (d.numeral part)] else [brokenToken .endOfValue .badNumber] := by
  cases part <;> rfl

/-- What is scanned of a numeral that is cut. -/
def EndsNumeral (n : Numeral) (tokens : List Token) : Prop :=
  (∃ n', n.Shortened n' ∧ tokens = [.number n']) ∨ tokens = [brokenToken .endOfValue .badNumber]

theorem delimited_nil : Delimited [] := nofun

theorem scanFrom_power_cut {n : Numeral} (h : n.Sound) {part : NumeralPart}
    (hpart : part = .zero ∨ part = .whole ∨ part = .fraction) {p t : List Char} (hp : p ≠ [])
    (heq : p ++ t = Numeral.powerText n.power) :
    EndsNumeral n (scanFrom (.numeral ⟨n.negative, n.whole.reverse, n.fraction.reverse, .absent, []⟩ part) p) := by
  cases hpower : n.power with
  | none =>
    rw [hpower] at heq
    exact absurd (List.append_eq_nil_iff.mp heq).1 hp
  | some power =>
    obtain ⟨-, hdigits⟩ := h.power power hpower
    rw [hpower] at heq
    obtain ⟨c, p, rfl⟩ := List.exists_cons_of_ne_nil hp
    obtain ⟨rfl, hrest⟩ := List.cons.inj heq
    have hmark (d : Digits) : extendNumeral d part 'e' = .longer d .mark := by
      rcases hpart with rfl | rfl | rfl <;> rfl
    rw [scanFrom_longer (hmark _)]
    rcases split_append hrest with ⟨c, hc, hcut⟩ | ⟨digits, rfl, htail⟩
    · -- The text ends in front of the sign.
      obtain ⟨k, hk, rfl⟩ := eq_take_of_append hcut hc
      cases hsign : power.sign with
      | absent => rw [hsign] at hk; cases hk
      | plus | minus =>
        rw [hsign] at hk
        match k, hk with
        | 0, _ => exact .inr rfl
    · by_cases hnone : digits = []
      · subst hnone
        rw [List.append_nil]
        cases power.sign <;> exact .inr rfl
      · have hbegins : digits <+: power.digits := ⟨t, htail⟩
        refine .inl ⟨_, .power hpower hnone hbegins, ?_⟩
        have hsome : ∀ p ∈ some (⟨power.sign, digits⟩ : PowerOfTen), p.digits ≠ [] ∧ AllDigits p.digits := by
          rintro p ⟨⟩
          exact ⟨hnone, hdigits.begins hbegins⟩
        have hscan := @scanFrom_power ⟨n.negative, n.whole.reverse, n.fraction.reverse, .absent, []⟩ rfl part hpart
          (some ⟨power.sign, digits⟩) hsome 'e' (.inl rfl) [] delimited_nil
        simp only [Option.elim_some, List.append_nil, scanFrom_longer (hmark _), List.reverse_reverse] at hscan
        exact hscan

theorem endsNumeral_whole {n : Numeral} (h : n.Sound) {part : NumeralPart} (hpart : part = .zero ∨ part = .whole) :
    EndsNumeral n (scanFrom (.numeral ⟨n.negative, n.whole.reverse, [], .absent, []⟩ part) []) := by
  refine .inl ⟨_, .whole h.nonempty (List.prefix_refl _), ?_⟩
  rw [scanFrom_numeral_end]
  rcases hpart with rfl | rfl <;> simp [Digits.numeral, NumeralPart.mayEnd]

theorem fractionText_of_ne_nil {digits : List Char} (h : digits ≠ []) :
    Numeral.fractionText digits = '.' :: digits := by
  rw [Numeral.fractionText, List.isEmpty_eq_false_iff.mpr h]
  rfl

/-- A numeral that is cut in front of its fraction, behind the point or behind one of the digits. -/
theorem scanFrom_fraction_cut {n : Numeral} (h : n.Sound) {part : NumeralPart} (hpart : part = .zero ∨ part = .whole)
    {p t : List Char} (heq : p ++ t = Numeral.fractionText n.fraction) :
    EndsNumeral n (scanFrom (.numeral ⟨n.negative, n.whole.reverse, [], .absent, []⟩ part) p) := by
  cases p with
  | nil => exact endsNumeral_whole h hpart
  | cons x digits =>
    have hsome : n.fraction ≠ [] := by
      intro hnone
      rw [hnone] at heq
      cases heq
    rw [fractionText_of_ne_nil hsome] at heq
    obtain ⟨rfl, hdigits⟩ := List.cons.inj heq
    by_cases hfirst : digits = []
    · subst hfirst
      have hpoint : extendNumeral ⟨n.negative, n.whole.reverse, [], .absent, []⟩ part '.' =
          .longer ⟨n.negative, n.whole.reverse, [], .absent, []⟩ .point := by
        rcases hpart with rfl | rfl <;> rfl
      rw [scanFrom_longer hpoint]
      exact .inr rfl
    · have hbegins : digits <+: n.fraction := ⟨t, hdigits⟩
      obtain ⟨part', hpart', hscan⟩ := @scanFrom_fraction ⟨n.negative, n.whole.reverse, [], .absent, []⟩ rfl part
        hpart digits (h.fraction.begins hbegins) []
      rw [fractionText_of_ne_nil hfirst, List.append_nil] at hscan
      refine .inl ⟨_, .fraction hfirst hbegins, ?_⟩
      rw [hscan, scanFrom_numeral_end]
      rcases hpart' with rfl | rfl | rfl <;> simp [Digits.numeral, NumeralPart.mayEnd]

theorem scanFrom_places_cut {n : Numeral} (h : n.Sound) {part : NumeralPart} (hpart : part = .zero ∨ part = .whole)
    {p t : List Char} (heq : p ++ t = Numeral.fractionText n.fraction ++ Numeral.powerText n.power) :
    EndsNumeral n (scanFrom (.numeral ⟨n.negative, n.whole.reverse, [], .absent, []⟩ part) p) := by
  rcases split_append heq with ⟨c, -, hcut⟩ | ⟨q, rfl, hq⟩
  · exact scanFrom_fraction_cut h hpart hcut
  by_cases hmore : q = []
  · subst hmore
    have hall : Numeral.fractionText n.fraction ++ [] ++ [] = Numeral.fractionText n.fraction := by
      simp only [List.append_nil]
    exact scanFrom_fraction_cut h hpart hall
  · obtain ⟨part', hpart', hscan⟩ := @scanFrom_fraction ⟨n.negative, n.whole.reverse, [], .absent, []⟩ rfl part
      hpart n.fraction h.fraction q
    rw [hscan]
    exact scanFrom_power_cut h hpart' hmore hq

theorem scanFrom_whole_cut {n : Numeral} (h : n.Sound) {p t : List Char} (hp : p ≠ [])
    (heq : p ++ t = (if n.negative then ['-'] else []) ++ n.whole) : EndsNumeral n (scanFrom .between p) := by
  rcases split_append heq with ⟨c, hc, hsign⟩ | ⟨digits, rfl, hdigits⟩
  · -- Nothing is in front of the end of the sign.
    obtain ⟨k, hk, rfl⟩ := eq_take_of_append hsign hc
    cases hnegative : n.negative with
    | false => rw [hnegative] at hk; cases hk
    | true =>
      rw [hnegative] at hk hp
      match k, hk with
      | 0, _ => exact absurd rfl hp
  · by_cases hnone : digits = []
    · subst hnone
      cases hnegative : n.negative with
      | false => rw [hnegative] at hp; exact absurd rfl hp
      | true => exact .inr rfl
    · have hbegins : digits <+: n.whole := ⟨t, hdigits⟩
      have hleading : digits.head? = some '0' → digits = ['0'] := by
        intro hhead
        have hzero : n.whole = ['0'] := h.leading (by rw [← hdigits, List.head?_append, hhead]; rfl)
        rw [hzero] at hbegins
        have hlength := hbegins.length_le
        have hpos := List.length_pos_iff.mpr hnone
        exact hbegins.eq_of_length (Nat.le_antisymm hlength hpos)
      obtain ⟨part, hpart, hscan⟩ := scanFrom_whole n.negative (h.whole.begins hbegins) hnone hleading []
      rw [List.append_nil] at hscan
      refine .inl ⟨_, .whole hnone hbegins, ?_⟩
      rw [hscan, scanFrom_numeral_end]
      rcases hpart with rfl | rfl <;> simp [Digits.numeral, NumeralPart.mayEnd]

/-- **A numeral that is cut is a shorter one, or broken by its end.** -/
theorem scanFrom_numeral_cut {n : Numeral} (h : n.Sound) {p t : List Char} (hp : p ≠ []) (heq : p ++ t = n.text) :
    EndsNumeral n (scanFrom .between p) := by
  have htext : n.text = ((if n.negative then ['-'] else []) ++ n.whole) ++
      (Numeral.fractionText n.fraction ++ Numeral.powerText n.power) := by
    simp only [Numeral.text, List.append_assoc]
  rw [htext] at heq
  rcases split_append heq with ⟨c, -, hcut⟩ | ⟨q, rfl, hq⟩
  · exact scanFrom_whole_cut h hp hcut
  · obtain ⟨part, hpart, hscan⟩ := scanFrom_whole n.negative h.whole h.nonempty h.leading q
    rw [hscan]
    exact scanFrom_places_cut h hpart hq

end Json

end Dataflow
