/-
Which argument a JSON text is. The kinds are tried one after the other; here is
which one it comes to, said of the text and not of the trials
(`decode_classified`). A number is an integer when it is written as one of 64
bits, minus zero apart (`IsInt64`), and a list is one of integers when all its
items are. So the empty list is one of integers, and no text is a list of no
single precision numbers (`decode_ne_floats_nil`).
-/
import Dataflow.Proofs.Json.Members
import Dataflow.Proofs.Numeric.Overflow
import Dataflow.Proofs.Spec.Parts

namespace Dataflow

open Json Numeric

/-! ## Integers -/

namespace Numeric.Numeral

/-- The numeral is written as an integer of 64 bits, without fraction and power of ten, and is not minus
zero. -/
structure IsInt64 (n : Numeral) (i : Int64) : Prop where
  whole : n.isWhole = true
  value : n.integer = i.toInt
  signed : n.negative = true → i.toInt ≠ 0

theorem IsInt64.unique {n : Numeral} {i j : Int64} (hi : n.IsInt64 i) (hj : n.IsInt64 j) : i = j :=
  Int64.toInt_inj.mp (hi.value.symm.trans hj.value)

theorem IsInt64.numeralValue {n : Numeral} {i : Int64} (h : n.IsInt64 i) :
    numeralValue n = .ok (Number.ofInt i.toInt) := by
  have hleast := i.le_toInt
  have hgreatest := i.toInt_lt
  exact numeralValue_integer h.whole h.value h.signed (by omega) (by omega)

theorem isInt64_of_int64? {n : Numeral} {v : Number} {i : Int64} (hv : Json.numeralValue n = .ok v)
    (hi : v.int64? = some i) : n.IsInt64 i := by
  unfold Json.numeralValue at hv
  simp only at hv
  split at hv
  case isFalse =>
    -- A fraction, a power of ten or too many digits make it a real number.
    cases hm : magnitude n with
    | error e => rw [hm] at hv; cases hv
    | ok x => rw [hm] at hv; cases hv; cases hi
  next hint =>
    obtain ⟨hwhole, hexcess⟩ := Bool.and_eq_true_iff.mp hint
    obtain ⟨htaken, -⟩ := takeDigits_all (Nat.zero_le _) (List.isEmpty_iff.mp hexcess)
    rw [htaken] at hv
    have hinteger : n.integer = if n.negative then -(Nat.ofDigitChars 10 n.whole 0 : Int)
      else Nat.ofDigitChars 10 n.whole 0 := rfl
    generalize Nat.ofDigitChars 10 n.whole 0 = size at hv hinteger
    cases hneg : n.negative with
    | false =>
      simp only [hneg, Bool.not_false, if_true, Except.ok.injEq] at hv
      subst hv
      simp only [Number.int64?] at hi
      split at hi
      next hsize =>
        cases hi
        refine ⟨hwhole, ?_, by rw [hneg]; exact fun h => by cases h⟩
        rw [hinteger, hneg, ← Int64.ofInt_eq_ofNat, Int64.toInt_ofInt_of_le (by omega) (by omega)]
        rfl
      next => cases hi
    | true =>
      simp only [hneg, Bool.not_true, Bool.false_eq_true, if_false] at hv
      split at hv
      next hsize =>
        simp only [Bool.and_eq_true, decide_eq_true_eq] at hsize
        cases hv
        cases hi
        have hvalue : (Int64.ofInt (-(size : Int))).toInt = -size := Int64.toInt_ofInt_of_le (by omega) (by omega)
        exact ⟨hwhole, by rw [hinteger, hneg, hvalue]; rfl, by rw [hvalue]; omega⟩
      next => cases hv; cases hi

/-- A numeral is one of 64 bits exactly when its value is. -/
theorem int64?_eq_none_iff {n : Numeral} {v : Number} (hv : Json.numeralValue n = .ok v) :
    v.int64? = none ↔ ∀ i, ¬ n.IsInt64 i := by
  constructor
  · intro hnone i hi
    rw [hi.numeralValue] at hv
    cases hv
    rw [Argument.int64?_ofInt] at hnone
    cases hnone
  · intro hnot
    cases hi : v.int64? with
    | none => rfl
    | some i => exact absurd (isInt64_of_int64? hv hi) (hnot i)

end Numeric.Numeral

namespace Json

/-! ## Readable trees -/

/-- A tree whose brackets are nested at most `room` deep, whose numbers can be computed and whose texts
spell characters. -/
inductive Doc.Readable : Nat → Doc → Prop
  | null {room : Nat} : Readable room .null
  | bool {room : Nat} (b : Bool) : Readable room (.bool b)
  | number {room : Nat} {n : Numeral} {v : Number} (h : numeralValue n = .ok v) : Readable room (.number n)
  | text {room : Nat} (s : String) : Readable room (.text (.ok s))
  | list {room : Nat} {items : List Doc} (h : ∀ d ∈ items, Readable room d) :
    Readable (room + 1) (.list items .closed)
  | object {room : Nat} {members : List (Except ReadError String × Doc)} (keys : ∀ m ∈ members, ∃ key, m.1 = .ok key)
    (h : ∀ m ∈ members, Readable room m.2) : Readable (room + 1) (.object members .closed)

namespace Doc.Readable

theorem value {room : Nat} {n : Numeral} (h : Readable room (.number n)) : ∃ v, numeralValue n = .ok v := by
  cases h with
  | number h => exact ⟨_, h⟩

theorem items {room : Nat} {items : List Doc} {ending : Ending} (h : Readable (room + 1) (.list items ending)) :
    ∀ d ∈ items, Readable room d := by
  cases h with
  | list h => exact h

theorem members {room : Nat} {members : List (Except ReadError String × Doc)} {ending : Ending}
    (h : Readable (room + 1) (.object members ending)) :
    (∀ m ∈ members, ∃ key, m.1 = .ok key) ∧ ∀ m ∈ members, Readable room m.2 := by
  cases h with
  | object keys h => exact ⟨keys, h⟩

end Doc.Readable

theorem checkItems_iff {room : Nat} {items : List Doc} :
    checkItems room items = .ok () ↔ ∀ d ∈ items, d.check room = .ok () := by
  induction items with
  | nil => simp [checkItems]
  | cons d rest ih =>
    rw [List.forall_mem_cons, ← ih, checkItems]
    cases d.check room with
    | error e => simp [bind, Except.bind]
    | ok _ => simp [bind, Except.bind]

theorem checkMembers_iff {room : Nat} {members : List (Except ReadError String × Doc)} :
    checkMembers room members = .ok () ↔
      (∀ m ∈ members, ∃ key, m.1 = .ok key) ∧ ∀ m ∈ members, m.2.check room = .ok () := by
  induction members with
  | nil => simp [checkMembers]
  | cons m rest ih =>
    obtain ⟨key, d⟩ := m
    rw [List.forall_mem_cons, List.forall_mem_cons, checkMembers]
    cases key with
    | error e => simp [discard, Functor.discard, Functor.mapConst, bind, Except.bind, Except.map]
    | ok key =>
      cases hd : d.check room with
      | error e => simp [discard, Functor.discard, Functor.mapConst, bind, Except.bind, Except.map]
      | ok _ => simpa [discard, Functor.discard, Functor.mapConst, bind, Except.bind, Except.map, hd] using ih

/-- **The check of a tree without a fault finds whether it is readable.** -/
theorem Doc.Whole.check_iff {d : Doc} (h : d.Whole) {room : Nat} : d.check room = .ok () ↔ d.Readable room := by
  induction h generalizing room with
  | null => exact iff_of_true rfl .null
  | bool b => exact iff_of_true rfl (.bool b)
  | number n =>
    cases hv : numeralValue n with
    | error e =>
      simp only [Doc.check, hv, Except.map, reduceCtorEq, false_iff]
      intro h
      obtain ⟨v, hvalue⟩ := h.value
      rw [hv] at hvalue
      cases hvalue
    | ok v =>
      simp only [Doc.check, hv, Except.map, true_iff]
      exact .number hv
  | text s =>
    cases s with
    | error e => exact iff_of_false (fun h => by cases h) (fun h => by cases h)
    | ok s => exact iff_of_true rfl (.text s)
  | @list items _ ih =>
    cases room with
    | zero => exact iff_of_false (fun h => by cases h) (fun h => by cases h)
    | succ inner =>
      have hcheck : (Doc.list items .closed).check (inner + 1) = checkItems inner items := by
        simp only [Doc.check, inBracket]
        cases checkItems inner items <;> rfl
      rw [hcheck, checkItems_iff]
      exact ⟨fun h => .list fun d hd => (ih d hd).mp (h d hd), fun h d hd => (ih d hd).mpr (h.items d hd)⟩
  | @object members _ ih =>
    cases room with
    | zero => exact iff_of_false (fun h => by cases h) (fun h => by cases h)
    | succ inner =>
      have hcheck : (Doc.object members .closed).check (inner + 1) = checkMembers inner members := by
        simp only [Doc.check, inBracket]
        cases checkMembers inner members <;> rfl
      rw [hcheck, checkMembers_iff]
      exact ⟨fun h => .object h.1 fun m hm => (ih m hm).mp (h.2 m hm),
        fun h => ⟨h.members.1, fun m hm => (ih m hm).mpr (h.members.2 m hm)⟩⟩

end Json

namespace Argument

/-! ## Kinds -/

/-- What a readable tree comes to as an argument. -/
inductive Classified : Doc → Except ReadError Argument → Prop
  | int {n : Numeral} {i : Int64} (h : n.IsInt64 i) : Classified (.number n) (.ok (.int i))
  | float {n : Numeral} {v : Number} (hv : numeralValue n = .ok v) (h : ∀ i, ¬ n.IsInt64 i) :
    Classified (.number n) (.ok (.float v.single))
  | text (s : String) : Classified (.text (.ok s)) (.ok (.text s))
  | ints {ns : List Numeral} {is : List Int64} (h : List.Forall₂ Numeral.IsInt64 ns is) :
    Classified (.list (ns.map .number) .closed) (.ok (.ints is))
  | floats {ns : List Numeral} {vs : List Number} (hvs : List.Forall₂ (fun n v => numeralValue n = .ok v) ns vs)
    (h : ∃ n ∈ ns, ∀ i, ¬ n.IsInt64 i) :
    Classified (.list (ns.map .number) .closed) (.ok (.floats (vs.map Number.single)))
  | null : Classified .null (.error noKind)
  | bool (b : Bool) : Classified (.bool b) (.error noKind)
  | object (members : List (Except ReadError String × Doc)) : Classified (.object members .closed) (.error noKind)
  | mixed {items : List Doc} (h : ∃ d ∈ items, ∀ n, d ≠ .number n) : Classified (.list items .closed) (.error noKind)

theorem number?_of_readable {room : Nat} {items : List Doc} (h : ∀ d ∈ items, d.Readable room) :
    (∃ ns vs, items = ns.map .number ∧ List.Forall₂ (fun n v => numeralValue n = .ok v) ns vs ∧
        items.mapM Doc.number? = some vs) ∨
      (items.mapM Doc.number? = none ∧ ∃ d ∈ items, ∀ n, d ≠ .number n) := by
  induction items with
  | nil => exact .inl ⟨[], [], rfl, .nil, rfl⟩
  | cons d rest ih =>
    obtain ⟨hd, hrest⟩ := List.forall_mem_cons.mp h
    rw [List.mapM_cons]
    by_cases hnumber : ∃ n, d = .number n
    · obtain ⟨n, rfl⟩ := hnumber
      obtain ⟨v, hv⟩ := hd.value
      have hvalue : (Doc.number n).number? = some v := by rw [Doc.number?, hv]; rfl
      rw [hvalue]
      rcases ih hrest with ⟨ns, vs, rfl, hvs, hmap⟩ | ⟨hmap, d', hd', hother⟩
      · exact .inl ⟨n :: ns, v :: vs, rfl, .cons hv hvs, by rw [hmap]; rfl⟩
      · exact .inr ⟨by rw [hmap]; rfl, d', .tail _ hd', hother⟩
    · have hnone : d.number? = none := by
        cases d with
        | number n => exact absurd ⟨n, rfl⟩ hnumber
        | _ => rfl
      rw [hnone]
      exact .inr ⟨rfl, d, .head _, fun n hn => hnumber ⟨n, hn⟩⟩

theorem int64?_of_values {ns : List Numeral} {vs : List Number}
    (h : List.Forall₂ (fun n v => numeralValue n = .ok v) ns vs) :
    (∃ is, List.Forall₂ Numeral.IsInt64 ns is ∧ vs.mapM Number.int64? = some is) ∨
      (vs.mapM Number.int64? = none ∧ ∃ n ∈ ns, ∀ i, ¬ n.IsInt64 i) := by
  induction h with
  | nil => exact .inl ⟨[], .nil, rfl⟩
  | @cons n v ns vs hv _ ih =>
    rw [List.mapM_cons]
    cases hi : v.int64? with
    | none => exact .inr ⟨rfl, n, .head _, (Numeral.int64?_eq_none_iff hv).mp hi⟩
    | some i =>
      rcases ih with ⟨is, his, hmap⟩ | ⟨hmap, n', hn', hother⟩
      · exact .inl ⟨i :: is, .cons (Numeral.isInt64_of_int64? hv hi) his, by rw [hmap]; rfl⟩
      · exact .inr ⟨by rw [hmap]; rfl, n', .tail _ hn', hother⟩

theorem ofNumber_classified {n : Numeral} {v : Number} (hv : numeralValue n = .ok v) :
    Classified (.number n) (.ok (ofNumber v)) := by
  unfold ofNumber
  cases hi : v.int64? with
  | some i => exact .int (Numeral.isInt64_of_int64? hv hi)
  | none => exact .float hv ((Numeral.int64?_eq_none_iff hv).mp hi)

theorem ofNumbers_classified {ns : List Numeral} {vs : List Number}
    (h : List.Forall₂ (fun n v => numeralValue n = .ok v) ns vs) :
    Classified (.list (ns.map .number) .closed) (.ok (ofNumbers vs)) := by
  unfold ofNumbers
  rcases int64?_of_values h with ⟨is, his, hmap⟩ | ⟨hmap, hother⟩
  · rw [hmap]
    exact .ints his
  · rw [hmap]
    exact .floats h hother

/-- **A readable tree is read as what it comes to.** -/
theorem reader_classified {d : Doc} {room : Nat} (hwhole : d.Whole) (h : d.Readable room) :
    Classified d (reader room d) := by
  rw [reader_of_check (hwhole.check_iff.mpr h)]
  cases h with
  | null => exact .null
  | bool b => exact .bool b
  | @number _ n v hv =>
    have hvalue : (Doc.number n).number? = some v := by rw [Doc.number?, hv]; rfl
    simp only [ofDoc, hvalue]
    exact ofNumber_classified hv
  | text s => exact .text s
  | list h =>
    rcases number?_of_readable h with ⟨ns, vs, rfl, hvs, hmap⟩ | ⟨hmap, hother⟩
    · simp only [ofDoc, hmap]
      exact ofNumbers_classified hvs
    · simp only [ofDoc, hmap]
      exact .mixed hother
  | object keys h => exact .object _

theorem integers_unique {ns : List Numeral} {is js : List Int64} (h : List.Forall₂ Numeral.IsInt64 ns is)
    (h' : List.Forall₂ Numeral.IsInt64 ns js) : is = js := by
  induction h generalizing js with
  | nil => cases h'; rfl
  | cons hi _ ih =>
    cases h' with
    | cons hj hjs => rw [hi.unique hj, ih hjs]

theorem values_unique {ns : List Numeral} {vs ws : List Number}
    (h : List.Forall₂ (fun n v => numeralValue n = .ok v) ns vs)
    (h' : List.Forall₂ (fun n v => numeralValue n = .ok v) ns ws) : vs = ws := by
  induction h generalizing ws with
  | nil => cases h'; rfl
  | cons hv _ ih =>
    cases h' with
    | cons hw hws => rw [Except.ok.inj (hv.symm.trans hw), ih hws]

theorem not_integers {ns : List Numeral} {is : List Int64} (h : List.Forall₂ Numeral.IsInt64 ns is) :
    ¬ ∃ n ∈ ns, ∀ i, ¬ n.IsInt64 i := by
  rintro ⟨n, hn, hnot⟩
  induction h with
  | nil => cases hn
  | cons hi _ ih =>
    rcases List.mem_cons.mp hn with rfl | hn
    · exact hnot _ hi
    · exact ih hn

theorem not_mixed (ns : List Numeral) : ¬ ∃ d ∈ ns.map Doc.number, ∀ n, d ≠ .number n := by
  rintro ⟨d, hd, hnot⟩
  obtain ⟨n, -, rfl⟩ := List.mem_map.mp hd
  exact hnot n rfl

/-- A tree comes to one argument, or to none. -/
theorem Classified.unique {d : Doc} {r r' : Except ReadError Argument} (h : Classified d r) (h' : Classified d r') :
    r = r' := by
  have hnumbers : Function.Injective (List.map Doc.number) :=
    List.map_injective_iff.mpr fun _ _ => Doc.number.inj
  cases h with
  | int hi =>
    cases h' with
    | int hj => rw [hi.unique hj]
    | float _ hnot => exact absurd hi (hnot _)
  | float hv hnot =>
    cases h' with
    | int hi => exact absurd hi (hnot _)
    | float hw => rw [Except.ok.inj (hv.symm.trans hw)]
  | text | null | bool | object => cases h'; rfl
  | ints h =>
    generalize hlist : Doc.list _ _ = d at h'
    cases h' with
    | ints h' =>
      obtain rfl := hnumbers (Doc.list.inj hlist).1
      rw [integers_unique h h']
    | floats _ hother => exact absurd (hnumbers (Doc.list.inj hlist).1 ▸ hother) (not_integers h)
    | mixed hother => exact absurd ((Doc.list.inj hlist).1 ▸ hother) (not_mixed _)
    | _ => cases hlist
  | floats hvs hother =>
    generalize hlist : Doc.list _ _ = d at h'
    cases h' with
    | ints h' => exact absurd (hnumbers (Doc.list.inj hlist).1 ▸ hother) (not_integers h')
    | floats hws =>
      obtain rfl := hnumbers (Doc.list.inj hlist).1
      rw [values_unique hvs hws]
    | mixed hother => exact absurd ((Doc.list.inj hlist).1 ▸ hother) (not_mixed _)
    | _ => cases hlist
  | mixed hother =>
    generalize hlist : Doc.list _ _ = d at h'
    cases h' with
    | ints | floats => exact absurd ((Doc.list.inj hlist).1 ▸ hother) (not_mixed _)
    | mixed => rfl
    | _ => cases hlist

theorem ofNumbers_ne_floats_nil (vs : List Number) : ofNumbers vs ≠ .floats [] := by
  cases vs with
  | nil => exact nofun
  | cons v vs =>
    unfold ofNumbers
    split <;> exact nofun

theorem ofDoc_ne_floats_nil (d : Doc) : ofDoc d ≠ some (.floats []) := by
  intro h
  cases d with
  | number n =>
    obtain ⟨v, -, hv⟩ := Option.map_eq_some_iff.mp h
    unfold ofNumber at hv
    split at hv <;> cases hv
  | text s => cases s <;> cases h
  | list items ending =>
    obtain ⟨vs, -, hvs⟩ := Option.map_eq_some_iff.mp h
    exact ofNumbers_ne_floats_nil vs hvs
  | _ => cases h

theorem decode_ne_floats_nil (text : String) : reader.decode text ≠ .ok (.floats []) := by
  have hreader (d : Doc) : reader 127 d ≠ .ok (.floats []) := by
    unfold reader
    cases d.check 127 with
    | error e => exact nofun
    | ok _ =>
      cases hd : ofDoc d with
      | none => exact nofun
      | some a =>
        intro h
        cases h
        exact ofDoc_ne_floats_nil d hd
  unfold Reader.decode
  cases h : reader 127 (Reading.ofText text).root with
  | error e => simp only [h]; exact nofun
  | ok a =>
    simp only [h, bind, Except.bind]
    split
    · exact nofun
    · exact fun heq => hreader _ (h.trans heq)

/-! ## Texts -/

/-- The number lies too far from zero for single precision. -/
def TooLarge : Number → Prop
  | .real x => ∃ negative mantissa exponent, unpack64 x = .finite negative mantissa exponent ∧
      BinaryFormat.overflow32 * 2 ^ (-exponent).toNat ≤ mantissa * 2 ^ exponent.toNat
  | _ => False

theorem single_isInf {v : Number} (h : TooLarge v) : v.single.isInf = true := by
  cases v with
  | real x =>
    obtain ⟨_, _, _, hx, hlarge⟩ := h
    exact narrow_isInf hx hlarge
  | _ => exact h.elim

/-- **Which argument a text is.** A readable text is the argument that its tree comes to, where a number
too large for single precision becomes infinity; any other text is none; and no text at all is a list of
no single precision numbers. -/
theorem decode_classified {d : Doc} {text : String} (h : Spelled d text.toList) :
    (d.Readable 127 → Classified d (reader.decode text)) ∧
      (∀ v, TooLarge v → v.single.isInf = true) ∧
      (¬ d.Readable 127 → ∃ e, reader.decode text = .error e) ∧
      ∀ other, reader.decode other ≠ .ok (.floats []) := by
  rw [h.decode]
  refine ⟨reader_classified h.whole, fun v => single_isInf, fun hnot => ?_, decode_ne_floats_nil⟩
  cases hcheck : d.check 127 with
  | error e => exact ⟨e, by simp only [reader, hcheck]; rfl⟩
  | ok _ => exact absurd (h.whole.check_iff.mp hcheck) hnot

def borderline : Json := .list [.ofInt 9223372036854775807, .number ⟨true, ['0'], [], none⟩]

theorem decode_classified_borderline :
    reader.decode borderline.compact = .ok (.floats [single 9223372036854775807, narrow (-double 0)]) := by
  have hzero : (⟨true, ['0'], [], none⟩ : Numeral).Sound :=
    ⟨by simp [AllDigits, isDigit], by simp, by simp, by simp [AllDigits], by simp⟩
  have hsound : borderline.Sound := .list (by simpa using ⟨.number (sound_ofInt _), .number hzero⟩)
  have hspelled : Spelled (toDoc borderline) borderline.compact.toList := by
    rw [compact, String.toList_ofList]
    exact hsound.spelled_compact
  have hreadable : (toDoc borderline).Readable 127 :=
    .list (by simpa [itemDocs, toDoc, Json.ofInt] using ⟨.number rfl, .number rfl⟩)
  have hvalues : List.Forall₂ (fun n v => numeralValue n = .ok v)
      [.ofInt 9223372036854775807, ⟨true, ['0'], [], none⟩] [.natural 9223372036854775807, .real (-double 0)] :=
    .cons rfl (.cons rfl .nil)
  refine ((decode_classified hspelled).1 hreadable).unique (.floats hvalues ⟨_, .tail _ (.head _), ?_⟩)
  exact fun i hi => hi.signed rfl (hi.value.symm.trans rfl)

/-- A number just below the largest one of double precision. -/
def border : Numeral := ⟨false, "17976931348623157000".toList, [], some ⟨.absent, "289".toList⟩⟩

/-- A number within double precision may leave it on the way: its digits, with a power of ten behind them, are
multiplied after they have been rounded. -/
theorem decode_border :
    Spelled (.number border) "17976931348623157000e289".toList ∧
      Nat.ofDigitChars 10 border.whole 0 * 10 ^ 289 ≤ (2 ^ 53 - 1) * 2 ^ 971 ∧
      reader.decode "17976931348623157000e289" = .error .numberTooLarge := by
  have hsound : border.Sound := ⟨by simp [AllDigits, isDigit, border], by simp [border], by simp [border],
    by simp [AllDigits, border], by simp [border, AllDigits, isDigit]⟩
  have hspelled : Spelled (.number border) "17976931348623157000e289".toList := .number hsound (.inl rfl)
  refine ⟨hspelled, by decide +kernel, ?_⟩
  -- The power of ten is kept in two parts, each of a size that is computed.
  have hinfinite : (double 17976931348623157000 * double (Nat.pow (Nat.pow 10 17) 17)).isInf = true := by
    decide +kernel
  have hten {p q r : Nat} (hp : p = q * r) : Nat.pow 10 p = Nat.pow (Nat.pow 10 q) r := by
    subst hp
    exact Nat.pow_mul 10 q r
  have hscaled {p : Nat} (hp : p = 17 * 17) : scaled 17976931348623157000 p = .error .numberTooLarge := by
    rw [scaled_natCast _ (by omega), hten hp]
    exact if_pos hinfinite
  have hwhole : takeDigits wordMax 0 border.whole = (17976931348623157000, []) := by decide +kernel
  have hpower : takeDigits 2147483647 0 "289".toList = (289, []) := by decide +kernel
  have hmagnitude : magnitude border = .error .numberTooLarge := by
    simp only [magnitude, hwhole]
    exact (withPower_some _ _ hpower).trans (hscaled (by decide))
  have hvalue : numeralValue border = .error .numberTooLarge := by
    simp only [numeralValue, hwhole, hmagnitude]
    rfl
  rw [hspelled.decode]
  simp only [reader, Doc.check, hvalue]
  rfl

end Argument

end Dataflow
