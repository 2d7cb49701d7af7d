/-
The grammar of input tensors on the command line. A text is read exactly when it
is a name that is not empty, an equality sign and dimensions with a cross
between them, each of them decimal digits below `2 ^ 64`, with a plus in front
and blanks around it if one likes (`InputShape.Spells`). The name ends at the
first equality sign, and every cross is one between dimensions, so there is one
way only to read a text. A shape of one dimension or more is written in this way
when it is shown, and is read back.
-/
import Dataflow.CommandLine.InputShape
import Dataflow.Proofs.Json.Reading

namespace Dataflow

namespace Numeric

/-! ## Numbers -/

structure IsDecimal (n : Nat) (cs : List Char) : Prop where
  nonempty : cs ≠ []
  digits : AllDigits cs
  value : Nat.ofDigitChars 10 cs 0 = n

/-- The texts of a number: its digits, with any zeros in front and a plus before them if one likes. -/
inductive CountText (n : Nat) : List Char → Prop
  | digits {cs : List Char} (h : IsDecimal n cs) : CountText n cs
  | plus {cs : List Char} (h : IsDecimal n cs) : CountText n ('+' :: cs)

theorem isDecimal_toDigits (n : Nat) : IsDecimal n (Nat.toDigits 10 n) where
  nonempty := Nat.toDigits_ne_nil
  digits := allDigits_toDigits n
  value := Nat.ofDigitChars_ten_toDigits

theorem digit?_eq (c : Char) : digit? c = if Json.isDigit c = true then some (c.toNat - '0'.toNat) else none := by
  simp [digit?, Json.isDigit]

theorem readDigits_ok_iff {limit value n : Nat} {cs : List Char} (h : value < limit) :
    readDigits limit value cs = .ok n ↔ AllDigits cs ∧ Nat.ofDigitChars 10 cs value = n ∧ n < limit := by
  induction cs generalizing value with
  | nil =>
    rw [readDigits, Except.ok.injEq]
    exact ⟨fun hn => ⟨by simp [AllDigits], hn, hn ▸ h⟩, fun hn => hn.2.1⟩
  | cons c cs ih =>
    have hall : AllDigits (c :: cs) ↔ Json.isDigit c = true ∧ AllDigits cs := List.forall_mem_cons
    rw [readDigits, digit?_eq, hall, Nat.ofDigitChars_cons]
    by_cases hc : Json.isDigit c = true
    · simp only [hc, if_true, true_and]
      by_cases hnext : 10 * value + (c.toNat - '0'.toNat) < limit
      · rw [if_pos hnext, ih hnext]
      · -- The number has grown too large and stays so.
        have hle := le_ofDigitChars cs (10 * value + (c.toNat - '0'.toNat))
        simp only [hnext, if_false, reduceCtorEq, false_iff, not_and]
        omega
    · simp [hc]

theorem readUnsigned_ok_iff {limit n : Nat} {cs : List Char} (h : 0 < limit) :
    readUnsigned limit cs = .ok n ↔ IsDecimal n cs ∧ n < limit := by
  cases cs with
  | nil => exact iff_of_false nofun fun hn => hn.1.nonempty rfl
  | cons c cs =>
    rw [readUnsigned, readDigits_ok_iff h]
    · exact ⟨fun ⟨hdigits, hvalue, hn⟩ => ⟨⟨List.cons_ne_nil c cs, hdigits, hvalue⟩, hn⟩,
        fun ⟨hn, hlimit⟩ => ⟨hn.digits, hn.value, hlimit⟩⟩
    · exact List.cons_ne_nil c cs

/-- **A number is read exactly from its texts**, when it is below the limit. -/
theorem readCount_ok_iff {limit n : Nat} {cs : List Char} (h : 0 < limit) :
    readCount limit cs = .ok n ↔ CountText n cs ∧ n < limit := by
  unfold readCount
  split
  · refine iff_of_false nofun fun hn => ?_
    cases hn.1 with
    | digits h => exact h.nonempty rfl
  next digits =>
    rw [readUnsigned_ok_iff h]
    refine and_congr_left' ⟨.plus, fun hn => ?_⟩
    cases hn with
    | digits h => cases h.digits '+' (List.mem_cons_self ..)
    | plus h => exact h
  next hsome hplus =>
    rw [readUnsigned_ok_iff h]
    refine and_congr_left' ⟨.digits, fun hn => ?_⟩
    cases hn with
    | digits h => exact h
    | plus h => exact absurd rfl (hplus _)

theorem CountText.mem {n : Nat} {cs : List Char} (h : CountText n cs) {c : Char} (hc : c ∈ cs) :
    c = '+' ∨ Json.isDigit c = true := by
  cases h with
  | digits h => exact .inr (h.digits c hc)
  | plus h => exact (List.mem_cons.mp hc).imp id (h.digits c)

theorem CountText.nonempty {n : Nat} {cs : List Char} (h : CountText n cs) : cs ≠ [] := by
  cases h with
  | digits h => exact h.nonempty
  | plus h => exact List.cons_ne_nil _ _

end Numeric

namespace Text

/-! ## Blanks -/

theorem isBlank_digit {c : Char} (h : Json.isDigit c = true) : isBlank c = false := by
  simp only [Json.isDigit, Bool.and_eq_true, decide_eq_true_eq, Char.le_def] at h
  have hlow : 0x30 ≤ c.toNat := h.1
  have hhigh : c.toNat ≤ 0x39 := h.2
  simp [isBlank]
  omega

theorem dropWhile_blanks {blanks cs : List Char} (hblanks : ∀ c ∈ blanks, isBlank c = true) (hsome : cs ≠ [])
    (hcs : ∀ c ∈ cs, isBlank c = false) (rest : List Char) :
    (blanks ++ (cs ++ rest)).dropWhile isBlank = cs ++ rest := by
  obtain ⟨c, cs, rfl⟩ := List.exists_cons_of_ne_nil hsome
  rw [List.dropWhile_append_of_pos hblanks, List.cons_append, List.dropWhile_cons_of_neg]
  simp [hcs c (List.mem_cons_self ..)]

theorem trim_padded {before cs after : List Char} (hbefore : ∀ c ∈ before, isBlank c = true)
    (hafter : ∀ c ∈ after, isBlank c = true) (hsome : cs ≠ []) (hcs : ∀ c ∈ cs, isBlank c = false) :
    trim (before ++ cs ++ after) = cs := by
  have hback := @dropWhile_blanks after.reverse cs.reverse (by simpa using hafter) (by simpa using hsome)
    (by simpa using hcs) []
  rw [List.append_nil, ← List.reverse_append] at hback
  rw [trim, List.append_assoc, dropWhile_blanks hbefore hsome hcs, hback, List.reverse_reverse]

theorem exists_trim (cs : List Char) : ∃ before after, cs = before ++ trim cs ++ after ∧
    (∀ c ∈ before, isBlank c = true) ∧ ∀ c ∈ after, isBlank c = true := by
  have hall (l : List Char) : ∀ c ∈ l.takeWhile isBlank, isBlank c = true := List.all_eq_true.mp List.all_takeWhile
  refine ⟨cs.takeWhile isBlank, ((cs.dropWhile isBlank).reverse.takeWhile isBlank).reverse, ?_, hall cs,
    fun c hc => hall _ c (List.mem_reverse.mp hc)⟩
  rw [trim, List.append_assoc, ← List.reverse_append, List.takeWhile_append_dropWhile, List.reverse_reverse,
    List.takeWhile_append_dropWhile]

/-! ## Pieces -/

variable {separator : Char}

theorem cut_append {before : List Char} (h : separator ∉ before) (behind : List Char) :
    cut separator (before ++ separator :: behind) = some (before, behind) := by
  have hbefore : ∀ c ∈ before, (c != separator) = true := fun c hc => bne_iff_ne.mpr fun heq => h (heq ▸ hc)
  unfold cut
  rw [List.dropWhile_append_of_pos hbefore, List.takeWhile_append_of_pos hbefore]
  simp

/-- **The pieces, with the separator between them, are the text again.** -/
theorem intercalate_pieces (cs : List Char) : [separator].intercalate (pieces separator cs) = cs := by
  induction cs with
  | nil => rfl
  | cons c rest ih =>
    rw [pieces]
    obtain ⟨piece, others, hpieces⟩ := List.exists_cons_of_ne_nil (pieces_ne_nil separator rest)
    rw [hpieces] at ih ⊢
    split
    next hc =>
      rw [List.intercalate_cons_cons, ih, hc]
      rfl
    next =>
      cases others with
      | nil => simpa using ih
      | cons next others =>
        rw [List.intercalate_cons_cons] at ih ⊢
        rw [← ih]
        rfl

/-- **Texts without the separator are the pieces of what they make up.** -/
theorem pieces_intercalate {texts : List (List Char)} (hsome : texts ≠ []) (h : ∀ t ∈ texts, separator ∉ t) :
    pieces separator ([separator].intercalate texts) = texts := by
  induction texts with
  | nil => exact absurd rfl hsome
  | cons t rest ih =>
    obtain ⟨ht, hrest⟩ := List.forall_mem_cons.mp h
    cases rest with
    | nil => rw [List.intercalate_singleton, pieces_of_not_mem ht]
    | cons next rest =>
      rw [List.intercalate_cons_cons, List.append_assoc, List.singleton_append, pieces_append _ ht,
        ih (List.cons_ne_nil _ _) hrest]

end Text

/-! ## Input tensors -/

open Json Numeric Text

def Shape.bare (s : Shape) : String := "x".intercalate (s.dims.map fun d => toString d.toNat)

namespace InputShape

/-- The texts of a dimension: those of its number, with blanks around them if one likes. -/
inductive DimensionText (d : UInt64) : List Char → Prop
  | padded {before cs after : List Char} (hbefore : ∀ c ∈ before, isBlank c = true)
    (hafter : ∀ c ∈ after, isBlank c = true) (h : CountText d.toNat cs) : DimensionText d (before ++ cs ++ after)

/-- The texts of an input tensor: its name, which is not empty and has no equality sign, an equality sign, and texts of
its dimensions with a cross between them. -/
inductive Spells (i : InputShape) : String → Prop
  | intro {texts : List (List Char)} (hname : i.name ≠ "") (hsign : '=' ∉ i.name.toList) (hsome : texts ≠ [])
    (hdims : List.Forall₂ DimensionText i.shape.dims texts) :
    Spells i (i.name ++ "=" ++ String.ofList (['x'].intercalate texts))

theorem DimensionText.not_cross {d : UInt64} {cs : List Char} (h : DimensionText d cs) : 'x' ∉ cs := by
  cases h with
  | padded hbefore hafter h =>
    simp only [List.mem_append, not_or]
    refine ⟨⟨fun hx => ?_, fun hx => ?_⟩, fun hx => ?_⟩
    · exact absurd (hbefore _ hx) (by decide)
    · exact absurd (h.mem hx) (by decide)
    · exact absurd (hafter _ hx) (by decide)

/-- **A dimension is read exactly from its texts.** -/
theorem parseDimension_ok_iff {argument : String} {piece : List Char} {d : UInt64} :
    parseDimension argument piece = .ok d ↔ DimensionText d piece := by
  unfold parseDimension
  constructor
  · intro h
    obtain ⟨before, after, hpiece, hbefore, hafter⟩ := exists_trim piece
    cases hcount : readCount wordLimit (trim piece) with
    | error e => rw [hcount] at h; cases h
    | ok n =>
      rw [hcount] at h
      cases h
      obtain ⟨htext, hlimit⟩ := (readCount_ok_iff (by decide)).mp hcount
      rw [hpiece]
      exact .padded hbefore hafter (by rwa [UInt64.toNat_ofNat_of_lt' hlimit])
  · intro h
    cases h with
    | padded hbefore hafter h =>
      have hblank : ∀ c ∈ _, isBlank c = false := fun c hc =>
        (h.mem hc).elim (fun hplus => hplus ▸ by decide) isBlank_digit
      have hcount : readCount wordLimit _ = .ok d.toNat := (readCount_ok_iff (by decide)).mpr ⟨h, d.toNat_lt⟩
      rw [trim_padded hbefore hafter h.nonempty hblank, hcount]
      exact congrArg Except.ok UInt64.ofNat_toNat

/-- **An input tensor is read exactly from its texts.** -/
theorem parse_ok_iff {i : InputShape} {argument : String} : parse argument = .ok i ↔ i.Spells argument := by
  constructor
  · intro h
    unfold parse at h
    split at h
    · cases h
    · cases h
    next name behind hsome hcut =>
      obtain ⟨hargument, hsign⟩ := eq_of_cut hcut
      cases hdims : (pieces 'x' behind).mapM (parseDimension argument) with
      | error e => rw [hdims] at h; cases h
      | ok dims =>
        rw [hdims] at h
        cases h
        have htexts : List.Forall₂ DimensionText dims (pieces 'x' behind) :=
          (mapM_ok_iff.mp hdims).imp fun _ _ => parseDimension_ok_iff.mp
        have hspells := @Spells.intro ⟨String.ofList name, ⟨dims⟩⟩ _ (by simpa using fun hnil => hsome hnil)
          (by simpa using hsign) (pieces_ne_nil 'x' behind) htexts
        rw [intercalate_pieces] at hspells
        have htext : String.ofList name ++ "=" ++ String.ofList behind = argument := by
          rw [← String.toList_inj, hargument]
          simp
        rwa [htext] at hspells
  · intro h
    cases h with
    | @intro texts hname hsign hsome hdims =>
      have hcut : cut '=' (i.name ++ "=" ++ String.ofList (['x'].intercalate texts)).toList =
          some (i.name.toList, ['x'].intercalate texts) := by
        simpa using cut_append hsign (['x'].intercalate texts)
      have hcross : ∀ t ∈ texts, 'x' ∉ t :=
        ((List.forall₂_and_left _ _).mp (hdims.flip.imp fun _ _ h => ⟨DimensionText.not_cross h, h⟩)).1
      have hread (argument : String) : texts.mapM (parseDimension argument) = .ok i.shape.dims :=
        mapM_ok_iff.mpr (hdims.imp fun _ _ => parseDimension_ok_iff.mpr)
      obtain ⟨c, cs, hchars⟩ := List.exists_cons_of_ne_nil (mt String.toList_eq_nil_iff.mp hname)
      have hback : String.ofList (c :: cs) = i.name := by rw [← hchars, String.ofList_toList]
      simp only [parse, hcut, hchars, pieces_intercalate hsome hcross, hread]
      exact congrArg Except.ok (congrArg (InputShape.mk · i.shape) hback)

/-! ## Shapes as they are shown -/

theorem toList_bare (s : Shape) : s.bare.toList = ['x'].intercalate (s.dims.map fun d => Nat.toDigits 10 d.toNat) := by
  simp [Shape.bare, String.toList_intercalate, Function.comp_def]

/-- A shape of one dimension or more is shown as the text of an input tensor has it. -/
theorem spells_bare {i : InputShape} (hname : i.name ≠ "") (hsign : '=' ∉ i.name.toList) (hrank : 1 ≤ i.shape.rank) :
    i.Spells (i.name ++ "=" ++ i.shape.bare) := by
  have hsome : (i.shape.dims.map fun d => Nat.toDigits 10 d.toNat) ≠ [] := by
    rw [Ne, List.map_eq_nil_iff]
    exact List.length_pos_iff.mp hrank
  have hdims : List.Forall₂ DimensionText i.shape.dims (i.shape.dims.map fun d => Nat.toDigits 10 d.toNat) := by
    rw [List.forall₂_map_right_iff, List.forall₂_same]
    intro d _
    have hpadded : DimensionText d ([] ++ Nat.toDigits 10 d.toNat ++ []) :=
      .padded (by simp) (by simp) (.digits (isDecimal_toDigits d.toNat))
    simpa using hpadded
  rw [← String.ofList_toList (s := i.shape.bare), toList_bare]
  exact .intro hname hsign hsome hdims

theorem bare_eq_empty {s : Shape} (h : s.bare = "") : s.dims = [] := by
  have hchars := congrArg String.toList h
  rw [toList_bare] at hchars
  match hdims : s.dims with
  | [] => rfl
  | [d] => simp [hdims, Nat.toDigits_ne_nil] at hchars
  | d :: next :: rest => simp [hdims, List.intercalate_cons_cons] at hchars

/-- Shapes that are shown alike are equal. -/
theorem bare_injective : Function.Injective Shape.bare := by
  intro s t h
  by_cases hs : s.dims = []
  · have ht : t.dims = [] := bare_eq_empty (h ▸ by simp [Shape.bare, hs])
    exact congrArg Shape.mk (hs.trans ht.symm)
  · have ht : t.dims ≠ [] := fun ht => hs (bare_eq_empty (h ▸ by simp [Shape.bare, ht]))
    -- As dimensions of an input tensor, both are read back from the same text.
    have hread (u : Shape) (hu : u.dims ≠ []) : parse ("a=" ++ u.bare) = .ok ⟨"a", u⟩ :=
      parse_ok_iff.mpr (@spells_bare ⟨"a", u⟩ (by simp) (by simp) (List.length_pos_iff.mpr hu))
    have hboth := (hread s hs).symm.trans (h ▸ hread t ht)
    exact congrArg InputShape.shape (Except.ok.inj hboth)

/-- **Input tensors on the command line.** A text is read as an input tensor exactly when it is one of its texts: the
name up to the first equality sign, which is not empty, and behind it the dimensions. A shape of one dimension or more,
shown without its brackets behind a name, is read back; and no two shapes are shown alike. -/
theorem parse_iff_spells (i : InputShape) (argument : String) :
    (parse argument = .ok i ↔ i.Spells argument) ∧
      (i.name ≠ "" → '=' ∉ i.name.toList → 1 ≤ i.shape.rank →
        i.shape.display = "[" ++ i.shape.bare ++ "]" ∧ parse (i.name ++ "=" ++ i.shape.bare) = .ok i) ∧
      ∀ other : Shape, i.shape.display = other.display → i.shape = other := by
  refine ⟨parse_ok_iff, fun hname hsign hrank => ⟨rfl, parse_ok_iff.mpr (spells_bare hname hsign hrank)⟩, ?_⟩
  intro other h
  have hdisplay : "[" ++ i.shape.bare ++ "]" = "[" ++ other.bare ++ "]" := h
  refine bare_injective ?_
  rw [← String.toList_inj] at hdisplay ⊢
  simpa using hdisplay

/-- A matrix, with a blank, a plus and a zero where one likes, and as it is shown. -/
theorem parse_matrix : parse "x= 2x+03" = .ok ⟨"x", ⟨[2, 3]⟩⟩ ∧
    parse ("x" ++ "=" ++ Shape.bare ⟨[2, 3]⟩) = .ok ⟨"x", ⟨[2, 3]⟩⟩ := by
  have htwo : DimensionText 2 [' ', '2'] :=
    @DimensionText.padded 2 [' '] _ [] (by simp [isBlank]) (by simp) (.digits (isDecimal_toDigits 2))
  have hdecimal : IsDecimal 3 ['0', '3'] := ⟨by decide, by simp [AllDigits, Json.isDigit], rfl⟩
  have hthree : DimensionText 3 ['+', '0', '3'] :=
    @DimensionText.padded 3 [] _ [] (by simp) (by simp) (.plus hdecimal)
  have hspells : Spells ⟨"x", ⟨[2, 3]⟩⟩ "x= 2x+03" :=
    @Spells.intro ⟨"x", ⟨[2, 3]⟩⟩ _ (by decide) (by decide) (List.cons_ne_nil _ _) (.cons htwo (.cons hthree .nil))
  obtain ⟨hread, hshown, _⟩ := parse_iff_spells ⟨"x", ⟨[2, 3]⟩⟩ "x= 2x+03"
  exact ⟨hread.mpr hspells, (hshown (by decide) (by decide) (by decide)).2⟩

end InputShape

end Dataflow
