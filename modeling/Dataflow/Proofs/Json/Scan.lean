/-
The scanner reads a JSON text token by token, over the blanks. A numeral ends
only where the text does or where a character comes that cannot belong to it,
so what follows a value matters: a blank, a comma, a closing bracket or the end
(`Delimited`). The pieces of a text are read as the characters that they spell
(`scanFrom_quote`).
-/
import Dataflow.Proofs.Json.Grammar

namespace Dataflow.Json

open Numeric

/-- The tokens of what is left of a text, from a mode on. -/
def scanFrom : Mode → List Char → List Token
  | mode, [] => (lastToken mode).reverse
  | mode, c :: cs => (stepMode mode c).2.reverse ++ scanFrom (stepMode mode c).1 cs

theorem foldl_step (s : Scanner) (text : List Char) :
    (lastToken (text.foldl Scanner.step s).mode ++ (text.foldl Scanner.step s).tokens).reverse =
      s.tokens.reverse ++ scanFrom s.mode text := by
  induction text generalizing s with
  | nil => exact List.reverse_append ..
  | cons c cs ih =>
    rw [List.foldl_cons, ih, scanFrom, Scanner.step, List.reverse_append, List.append_assoc]

theorem scan_eq (text : List Char) : scan text = scanFrom .between text := foldl_step {} text

/-- What may follow a value inside another one. -/
def Delimited (rest : List Char) : Prop := ∀ c ∈ rest.head?, isSpace c = true ∨ c = ',' ∨ c = ']' ∨ c = '}'

/-! ## Blanks -/

theorem isSpace_iff {c : Char} : isSpace c = true ↔ c = ' ' ∨ c = '\n' ∨ c = '\t' ∨ c = '\r' := by
  simp only [isSpace, Bool.or_eq_true, beq_iff_eq, or_assoc]

theorem Delimited.blanks {gap rest : List Char} (h : AllSpace gap) (hrest : Delimited rest) :
    Delimited (gap ++ rest) := by
  cases gap with
  | nil => exact hrest
  | cons c gap =>
    intro c' hc
    obtain rfl : c = c' := Option.some.inj hc
    exact .inl (isSpace_iff.mpr (h c (List.mem_cons_self ..)))

/-- Blanks between tokens are passed over. -/
theorem scanFrom_blanks {gap : List Char} (h : AllSpace gap) (rest : List Char) :
    scanFrom .between (gap ++ rest) = scanFrom .between rest := by
  induction gap with
  | nil => rfl
  | cons c gap ih =>
    obtain ⟨hc, hgap⟩ := List.forall_mem_cons.mp h
    have hnone : stepMode .between c = (.between, []) := by
      simp only [stepMode, startToken, isSpace_iff.mpr hc, if_true, Option.toList]
    rw [List.cons_append, scanFrom, hnone, ih hgap]
    rfl

/-! ## Numerals -/

theorem scanFrom_longer {d d' : Digits} {part part' : NumeralPart} {c : Char}
    (h : extendNumeral d part c = .longer d' part') (cs : List Char) :
    scanFrom (.numeral d part) (c :: cs) = scanFrom (.numeral d' part') cs := by
  simp only [scanFrom, stepMode, h]
  rfl

/-- A numeral ends before a delimiter, if it may end there at all. -/
theorem scanFrom_ends (d : Digits) {part : NumeralPart} (hpart : part.mayEnd = true) {rest : List Char}
    (hrest : Delimited rest) :
    scanFrom (.numeral d part) rest = .number (d.numeral part) :: scanFrom .between rest := by
  cases rest with
  | nil => simp [scanFrom, lastToken, hpart]
  | cons c cs =>
    have hends : extendNumeral d part c = .ends := by
      rcases hrest c rfl with hspace | rfl | rfl | rfl
      · rcases isSpace_iff.mp hspace with rfl | rfl | rfl | rfl <;> cases part <;> first | rfl | cases hpart
      all_goals cases part <;> first | rfl | cases hpart
    simp only [scanFrom, stepMode, hends, List.reverse_append]
    rfl

theorem startToken_digit {c : Char} (hdigit : isDigit c = true) (hzero : c ≠ '0') :
    startToken c = (.numeral { negative := false, whole := [c] } .whole, none) := by
  unfold startToken
  have hspace : isSpace c = false := by
    simp only [isSpace, Bool.or_eq_false_iff, beq_eq_false_iff_ne]
    refine ⟨⟨⟨?_, ?_⟩, ?_⟩, ?_⟩ <;> rintro rfl <;> cases hdigit
  rw [hspace, if_neg Bool.false_ne_true]
  split
  case h_12 => exact absurd rfl hzero
  case h_13 => rw [if_pos hdigit]
  all_goals cases hdigit

/-- The parts of a numeral that may take in more digits of their own. -/
def NumeralPart.isOpen : NumeralPart → Bool
  | .whole | .fraction | .power => true
  | _ => false

def Digits.more (d : Digits) (cs : List Char) : NumeralPart → Digits
  | .whole => { d with whole := cs.reverse ++ d.whole }
  | .fraction => { d with fraction := cs.reverse ++ d.fraction }
  | .power => { d with power := cs.reverse ++ d.power }
  | _ => d

theorem extendNumeral_digit (d : Digits) {part : NumeralPart} (hpart : part.isOpen = true) {c : Char}
    (hc : isDigit c = true) : extendNumeral d part c = .longer (d.more [c] part) part := by
  cases part with
  | whole | fraction | power => simp only [extendNumeral, hc, if_true]; rfl
  | _ => cases hpart

theorem scanFrom_digits (d : Digits) {part : NumeralPart} (hpart : part.isOpen = true) {cs : List Char}
    (h : AllDigits cs) (rest : List Char) :
    scanFrom (.numeral d part) (cs ++ rest) = scanFrom (.numeral (d.more cs part) part) rest := by
  induction cs generalizing d with
  | nil => cases part <;> rfl
  | cons c cs ih =>
    obtain ⟨hc, hcs⟩ := List.forall_mem_cons.mp h
    have hmore : (d.more [c] part).more cs part = d.more (c :: cs) part := by
      cases part <;> simp [Digits.more]
    rw [List.cons_append, scanFrom_longer (extendNumeral_digit d hpart hc), ih _ hcs, hmore]

theorem scanFrom_whole (negative : Bool) {whole : List Char} (hdigits : AllDigits whole) (hnonempty : whole ≠ [])
    (hleading : whole.head? = some '0' → whole = ['0']) (rest : List Char) :
    ∃ part, (part = .zero ∨ part = .whole) ∧
      scanFrom .between ((if negative then ['-'] else []) ++ whole ++ rest) =
        scanFrom (.numeral { negative, whole := whole.reverse } part) rest := by
  obtain ⟨c, cs, rfl⟩ := List.exists_cons_of_ne_nil hnonempty
  by_cases hzero : c = '0'
  · subst hzero
    obtain rfl : cs = [] := (List.cons.inj (hleading rfl)).2
    exact ⟨.zero, .inl rfl, by cases negative <;> rfl⟩
  · obtain ⟨hc, hcs⟩ := List.forall_mem_cons.mp hdigits
    refine ⟨.whole, .inr rfl, ?_⟩
    have hfirst : scanFrom .between ((if negative then ['-'] else []) ++ c :: cs ++ rest) =
        scanFrom (.numeral { negative, whole := [c] } .whole) (cs ++ rest) := by
      cases negative with
      | false =>
        simp only [Bool.false_eq_true, if_false, List.nil_append, List.cons_append, scanFrom, stepMode,
          startToken_digit hc hzero]
        rfl
      | true =>
        have hminus : extendNumeral { negative := true } .minus c =
            .longer { negative := true, whole := [c] } .whole := by
          simp only [extendNumeral, beq_iff_eq, hzero, hc, if_false, if_true]
        exact scanFrom_longer hminus (cs ++ rest)
    rw [hfirst, scanFrom_digits _ rfl hcs]
    simp [Digits.more]

theorem scanFrom_fraction {d : Digits} (hempty : d.fraction = []) {part : NumeralPart}
    (hpart : part = .zero ∨ part = .whole) {fraction : List Char} (h : AllDigits fraction) (rest : List Char) :
    ∃ part', (part' = .zero ∨ part' = .whole ∨ part' = .fraction) ∧
      scanFrom (.numeral d part) (Numeral.fractionText fraction ++ rest) =
        scanFrom (.numeral { d with fraction := fraction.reverse } part') rest := by
  cases fraction with
  | nil =>
    refine ⟨part, hpart.elim .inl fun h => .inr (.inl h), ?_⟩
    have hnone : { d with fraction := [] } = d := by rw [← hempty]
    rw [List.reverse_nil, hnone]
    rfl
  | cons c cs =>
    obtain ⟨hc, hcs⟩ := List.forall_mem_cons.mp h
    have hpoint : extendNumeral d part '.' = .longer d .point := by
      rcases hpart with rfl | rfl <;> rfl
    have hfirst : extendNumeral d .point c = .longer { d with fraction := [c] } .fraction := by
      simp only [extendNumeral, hc, if_true]
    refine ⟨.fraction, .inr (.inr rfl), ?_⟩
    simp only [Numeral.fractionText, List.isEmpty_cons, Bool.false_eq_true, if_false, List.cons_append]
    rw [scanFrom_longer hpoint, scanFrom_longer hfirst, scanFrom_digits _ rfl hcs]
    simp [Digits.more]

theorem scanFrom_powerSign {d : Digits} (hsign : d.sign = .absent) {c : Char} (hc : isDigit c = true)
    (sign : ExponentSign) (rest : List Char) :
    scanFrom (.numeral d .mark) (sign.text ++ c :: rest) =
      scanFrom (.numeral { d with sign, power := [c] } .power) rest := by
  have hdigit (d : Digits) : extendNumeral d .sign c = .longer { d with power := [c] } .power := by
    simp only [extendNumeral, hc, if_true]
  cases sign with
  | absent =>
    have hplus : c ≠ '+' := by rintro rfl; cases hc
    have hminus : c ≠ '-' := by rintro rfl; cases hc
    have hpower : extendNumeral d .mark c = .longer { d with power := [c] } .power := by
      simp only [extendNumeral, beq_iff_eq, hplus, hminus, hc, if_false, if_true]
    have hunsigned : { d with sign := .absent, power := [c] } = { d with power := [c] } := by rw [← hsign]
    rw [hunsigned]
    exact scanFrom_longer hpower _
  | plus =>
    have hplus : extendNumeral d .mark '+' = .longer { d with sign := .plus } .sign := rfl
    exact (scanFrom_longer hplus _).trans (scanFrom_longer (hdigit _) _)
  | minus =>
    have hminus : extendNumeral d .mark '-' = .longer { d with sign := .minus } .sign := rfl
    exact (scanFrom_longer hminus _).trans (scanFrom_longer (hdigit _) _)

theorem scanFrom_power {d : Digits} (hsign : d.sign = .absent) {part : NumeralPart}
    (hpart : part = .zero ∨ part = .whole ∨ part = .fraction) {power : Option PowerOfTen}
    (h : ∀ p ∈ power, p.digits ≠ [] ∧ AllDigits p.digits) {mark : Char} (hmark : mark = 'e' ∨ mark = 'E')
    {rest : List Char} (hrest : Delimited rest) :
    scanFrom (.numeral d part) ((power.elim [] fun p => mark :: (p.sign.text ++ p.digits)) ++ rest) =
      .number ⟨d.negative, d.whole.reverse, d.fraction.reverse, power⟩ :: scanFrom .between rest := by
  cases power with
  | none =>
    have hends : part.mayEnd = true := by rcases hpart with rfl | rfl | rfl <;> rfl
    have hnumeral : d.numeral part = ⟨d.negative, d.whole.reverse, d.fraction.reverse, none⟩ := by
      rcases hpart with rfl | rfl | rfl <;> rfl
    rw [← hnumeral]
    exact scanFrom_ends d hends hrest
  | some p =>
    obtain ⟨hnonempty, hdigits⟩ := h p rfl
    obtain ⟨c, cs, hp⟩ := List.exists_cons_of_ne_nil hnonempty
    obtain ⟨hc, hcs⟩ := List.forall_mem_cons.mp (hp ▸ hdigits)
    have hlonger : extendNumeral d part mark = .longer d .mark := by
      rcases hmark with rfl | rfl <;> rcases hpart with rfl | rfl | rfl <;> rfl
    have hnumeral : ({ d with sign := p.sign, power := cs.reverse ++ [c] } : Digits).numeral .power =
        ⟨d.negative, d.whole.reverse, d.fraction.reverse, some p⟩ := by
      simp [Digits.numeral, ← hp]
    rw [Option.elim_some, List.cons_append, scanFrom_longer hlonger, hp, List.append_assoc,
      List.cons_append, scanFrom_powerSign hsign hc, scanFrom_digits _ rfl hcs, ← hnumeral]
    exact scanFrom_ends _ rfl hrest

/-- **A sound numeral is read as one token.** -/
theorem scanFrom_numeral {n : Numeral} (h : n.Sound) {mark : Char} (hmark : mark = 'e' ∨ mark = 'E') {rest : List Char}
    (hrest : Delimited rest) :
    scanFrom .between (numeralChars n mark ++ rest) = .number n :: scanFrom .between rest := by
  simp only [numeralChars, List.append_assoc]
  obtain ⟨part, hpart, hwhole⟩ := scanFrom_whole n.negative h.whole h.nonempty h.leading
    (Numeral.fractionText n.fraction ++ ((n.power.elim [] fun p => mark :: (p.sign.text ++ p.digits)) ++ rest))
  obtain ⟨part', hpart', hfraction⟩ := @scanFrom_fraction { negative := n.negative, whole := n.whole.reverse }
    rfl part hpart n.fraction h.fraction ((n.power.elim [] fun p => mark :: (p.sign.text ++ p.digits)) ++ rest)
  rw [← List.append_assoc, hwhole, hfraction, scanFrom_power rfl hpart' h.power hmark hrest]
  simp

/-! ## Texts -/

theorem HexDigit.sound (x : HexDigit) : Text.hexValue x.char = some x.value.val ∧ x.char.utf8Size = 1 := by
  obtain ⟨value, upper⟩ := x
  revert value upper
  decide

theorem escapeLetter_of_mem {c meant : Char} (h : (c, meant) ∈ escapes) : escapeLetter c = some meant := by
  have hall : ∀ e ∈ escapes, escapeLetter e.1 = some e.2 := by decide
  exact hall _ h

def Piece.put (t : Characters) : Piece → Characters
  | plain c _ => t.settle.push c
  | letter _ c _ => t.settle.push c
  | code x => t.pushCode x.value

theorem scanFrom_code (t : Characters) (x : Code) (rest : List Char) :
    scanFrom (.text t (.code 0 0 true)) (x.chars ++ rest) = scanFrom (.text (t.pushCode x.value) .plain) rest := by
  have hdigit {n bytes : Nat} (hbytes : bytes + 1 < 4) (y : HexDigit) (cs : List Char) :
      scanFrom (.text t (.code n bytes true)) (y.char :: cs) =
        scanFrom (.text t (.code (n * 16 + y.value.val) (bytes + 1) true)) cs := by
    have hstep : stepText t (.code n bytes true) y.char =
        (.text t (.code (n * 16 + y.value.val) (bytes + 1) true), none) := by
      simp [stepText, y.sound, hbytes]
    simp only [scanFrom, stepMode, hstep]
    rfl
  have hlast (n : Nat) (y : HexDigit) (cs : List Char) :
      scanFrom (.text t (.code n 3 true)) (y.char :: cs) =
        scanFrom (.text (t.pushCode (n * 16 + y.value.val)) .plain) cs := by
    have hstep : stepText t (.code n 3 true) y.char = (.text (t.pushCode (n * 16 + y.value.val)) .plain, none) := by
      simp [stepText, y.sound]
    simp only [scanFrom, stepMode, hstep]
    rfl
  simp only [Code.chars, List.cons_append, List.nil_append]
  rw [hdigit (by decide), hdigit (by decide), hdigit (by decide), hlast, Nat.zero_mul, Nat.zero_add]
  rfl

theorem scanFrom_piece (t : Characters) (p : Piece) (rest : List Char) :
    scanFrom (.text t .plain) (p.chars ++ rest) = scanFrom (.text (p.put t) .plain) rest := by
  cases p with
  | plain c h =>
    obtain ⟨hquote, hbackslash, hcontrol⟩ := h
    have hplain : stepText t .plain c = (.text (t.settle.push c) .plain, none) := by
      simp only [stepText, beq_iff_eq, hquote, hbackslash, Nat.not_lt.mpr hcontrol, if_false]
    simp only [Piece.chars, List.singleton_append, scanFrom, stepMode, hplain]
    rfl
  | letter c meant h =>
    have hletter := escapeLetter_of_mem h
    have hescape : stepText t .escape c = (.text (t.settle.push meant) .plain, none) := by
      have hcode : c ≠ 'u' := by rintro rfl; cases hletter
      simp only [stepText, beq_iff_eq, hcode, if_false, hletter]
    calc scanFrom (.text t .plain) ('\\' :: c :: rest)
        = scanFrom (.text t .escape) (c :: rest) := rfl
      _ = scanFrom (.text (t.settle.push meant) .plain) rest := by
        simp only [scanFrom, stepMode, hescape]
        rfl
  | code x => exact scanFrom_code t x rest

theorem scanFrom_pieces (t : Characters) (pieces : List Piece) (rest : List Char) :
    scanFrom (.text t .plain) (pieces.flatMap Piece.chars ++ '"' :: rest) =
      .text (pieces.foldl Piece.put t).settle.result :: scanFrom .between rest := by
  induction pieces generalizing t with
  | nil => rfl
  | cons p pieces ih => rw [List.flatMap_cons, List.append_assoc, scanFrom_piece, ih, List.foldl_cons]

/-! ### What the pieces spell -/

theorem put_fault {t : Characters} {e : ReadError} (h : t.fault = some e) (p : Piece) : (p.put t).fault = some e := by
  have hblame (e' : ReadError) : (t.blame e').fault = some e := by rw [Characters.blame, h]; rfl
  have hsettle : t.settle.fault = some e := by
    unfold Characters.settle
    split
    · exact hblame _
    · exact h
  cases p with
  | plain c hc => exact hsettle
  | letter c meant hc => exact hsettle
  | code x =>
    simp only [Piece.put, Characters.pushCode]
    split
    · split
      · exact h
      · exact hblame _
    · split
      · exact hblame _
      · split <;> exact h

theorem result_of_fault {t : Characters} {e : ReadError} (h : t.fault = some e) (pieces : List Piece) :
    (pieces.foldl Piece.put t).settle.result = .error e := by
  induction pieces generalizing t with
  | cons p pieces ih => exact ih (put_fault h p)
  | nil =>
    have hsettle : t.settle.fault = some e := by
      unfold Characters.settle
      split
      · rw [Characters.blame, h]
        rfl
      · exact h
    simp only [List.foldl_nil, Characters.result, hsettle]

theorem put_code (read : List Char) (x : Code) :
    (Piece.code x).put { read } =
      if x.isLow then { read, fault := some .loneSurrogate }
      else if x.isHigh then { read, half := some x.value }
      else { read := .ofNat x.value :: read } := rfl

/-- A code behind the first one of two. -/
theorem put_code_half (read : List Char) (x y : Code) :
    (Piece.code y).put { read, half := some x.value } =
      if y.isLow then { read := .ofNat (x.pair y) :: read } else { read, fault := some .loneSurrogate } := rfl

/-- Anything but a code leaves the first one of two a fault. -/
theorem fault_of_half {rest : List Piece} (h : ∀ y more, rest ≠ .code y :: more) (read : List Char) (high : Nat) :
    (rest.foldl Piece.put { read, half := some high }).settle.result = .error .halfPair := by
  cases rest with
  | nil => rfl
  | cons p more =>
    have hp : (p.put { read, half := some high }).fault = some .halfPair := by
      cases p with
      | plain c hc => rfl
      | letter c meant hc => rfl
      | code y => exact absurd rfl (h y more)
    exact result_of_fault hp more

theorem result_eq_spell (pieces : List Piece) (read : List Char) :
    (pieces.foldl Piece.put { read }).settle.result =
      (spell pieces).map fun cs => String.ofList (read.reverse ++ cs) := by
  have hmore (c : Char) (read : List Char) (rest : List Piece) :
      ((spell rest).map fun cs => String.ofList ((c :: read).reverse ++ cs)) =
        ((spell rest).map (c :: ·)).map fun cs => String.ofList (read.reverse ++ cs) := by
    cases spell rest <;> simp [Except.map]
  induction pieces using spell.induct generalizing read with
  | case1 => simp [spell, Characters.settle, Characters.result, Except.map]
  | case2 c _ rest ih => exact (ih (c :: read)).trans (hmore c read rest)
  | case3 _ c _ rest ih => exact (ih (c :: read)).trans (hmore c read rest)
  | case4 x rest hlow =>
    rw [List.foldl_cons, put_code, if_pos hlow, result_of_fault rfl, spell.eq_def]
    simp only [hlow, if_true, Except.map]
  | case5 x hlow hhigh y rest hpair ih =>
    rw [List.foldl_cons, put_code, if_neg hlow, if_pos hhigh, List.foldl_cons, put_code_half, if_pos hpair, ih, hmore,
      spell, if_neg hlow, if_pos hhigh, if_pos hpair]
  | case6 x hlow hhigh y rest hpair =>
    rw [List.foldl_cons, put_code, if_neg hlow, if_pos hhigh, List.foldl_cons, put_code_half, if_neg hpair,
      result_of_fault rfl, spell, if_neg hlow, if_pos hhigh, if_neg hpair]
    rfl
  | case7 x rest hlow hhigh hother =>
    rw [List.foldl_cons, put_code, if_neg hlow, if_pos hhigh, fault_of_half hother, spell, if_neg hlow, if_pos hhigh]
    · rfl
    · exact hother
  | case8 x rest hlow hhigh ih =>
    rw [List.foldl_cons, put_code, if_neg hlow, if_neg hhigh, ih, hmore, spell.eq_def (_ :: _)]
    simp only [hlow, hhigh, if_false, Bool.false_eq_true]

/-- **A text between quotes is read as one token**: what its pieces spell. -/
theorem scanFrom_quote (pieces : List Piece) (rest : List Char) :
    scanFrom .between (quote pieces ++ rest) = .text (textOf pieces) :: scanFrom .between rest := by
  have hopened : scanFrom .between (quote pieces ++ rest) =
      scanFrom (.text {} .plain) (pieces.flatMap Piece.chars ++ '"' :: rest) := by
    simp only [quote, List.cons_append, List.append_assoc, List.nil_append]
    rfl
  rw [hopened, scanFrom_pieces, result_eq_spell]
  rfl

-- Two codes are one character, whatever the case of their digits.
example : scan "\"\\uD83d\\uDE00\"".toList = [.text (.ok "😀")] := rfl

end Dataflow.Json
