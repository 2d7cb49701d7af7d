/-
Texts of tensors. A tensor is written as an object of its shape and its values,
and is read from such an object through the check that its constructor makes:
the values have to be as many as the shape has elements, which are counted
without overflow (`Tensor.read_object`). So a tensor of finite numbers is read
back, whatever the order of its two fields and whatever numerals its values
have; and one with a number that is not finite is written with a null among its
values, which is no number.
-/
import Dataflow.Proofs.Json.Members
import Dataflow.Proofs.Spec.Parts
import Dataflow.Tensor.Basic

namespace Dataflow

open Json

/-! ## Shapes -/

theorem Shape.readWord_ofNat (room : Nat) (n : UInt64) : readWord "usize" room (toDoc (.ofNat n.toNat)) = .ok n := by
  have hlt := n.toNat_lt
  have hread := Reader.integer_ofInt "usize" room (show (0 : Int) ≤ n.toNat by omega)
    (show (n.toNat : Int) ≤ 18446744073709551615 by omega) (by decide)
  rw [readWord, Json.ofNat, hread]
  exact congrArg Except.ok UInt64.ofNat_toNat

/-- **A shape reads back.** -/
theorem Shape.read_toJson (room : Nat) (s : Shape) : reader (room + 1) (toDoc s.toJson) = .ok s := by
  rw [reader, toJson, Reader.list_ok fun n _ => readWord_ofNat room n]
  rfl

theorem Shape.sound_toJson (s : Shape) : s.toJson.Sound :=
  .list (List.forall_mem_map.mpr fun _ _ => .number (Numeric.sound_ofInt _))

namespace Tensor

/-! ## Values -/

/-- The numerals of a single precision number: the one it is written with, if it is finite; the one of an integer of 64
bits, if it is the number nearest to this integer; and any other one, if it is the number nearest to its value in double
precision. -/
inductive Literal : Float32 → Doc → Prop
  | printed {x : Float32} (h : x.isFinite = true) : Literal x (toDoc (.ofSingle x))
  | integer {k : Int} (hleast : -9223372036854775808 ≤ k) (hgreatest : k ≤ 18446744073709551615) :
    Literal (Numeric.single k) (toDoc (.ofInt k))
  | real {n : Numeric.Numeral} {y : Float} (h : numeralValue n = .ok (.real y)) :
    Literal (Numeric.narrow y) (.number n)

theorem read_value (room : Nat) {x : Float32} (h : x.isFinite = true → ReadsBack x) :
    Reader.single room (toDoc (.ofSingle x)) = given (.wrongType .null "f32") x.isFinite x := by
  cases hfinite : x.isFinite with
  | false =>
    rw [ofSingle_of_not_finite hfinite]
    rfl
  | true =>
    obtain ⟨n, y, hn, hvalue, hsingle⟩ := (h hfinite).real hfinite
    simp only [hn, toDoc, Reader.single, hvalue, given_true]
    exact congrArg Except.ok hsingle

theorem single_ofInt (k : Int) : (Number.ofInt k).single = Numeric.single k := by
  unfold Number.ofInt
  split
  next hneg =>
    have habs : -(k.natAbs : Int) = k := by omega
    rw [Number.single, habs]
  next hneg =>
    have habs : (k.natAbs : Int) = k := by omega
    rw [Number.single, habs]

/-- **Every numeral of a number is read as this number.** -/
theorem Literal.read (room : Nat) {x : Float32} {d : Doc} (h : Literal x d) (hback : x.isFinite = true → ReadsBack x) :
    Reader.single room d = .ok x := by
  cases h with
  | printed hfinite => rw [read_value room hback, hfinite, given_true]
  | @integer k hleast hgreatest =>
    simp only [Json.ofInt, toDoc, Reader.single, numeralValue_ofInt hleast hgreatest]
    exact congrArg Except.ok (single_ofInt k)
  | real hvalue =>
    simp only [Reader.single, hvalue]
    rfl

theorem read_literals (room : Nat) {data : List Float32} {items : List Doc} (h : List.Forall₂ Literal data items)
    (hback : ∀ x ∈ data, x.isFinite = true → ReadsBack x) :
    Reader.list Reader.single (room + 1) (.list items .closed) = .ok data := by
  refine Reader.list_forall₂ ?_
  induction h with
  | nil => exact .nil
  | cons hx _ ih =>
    obtain ⟨hfirst, hback⟩ := List.forall_mem_cons.mp hback
    exact .cons (hx.read room hfirst) (ih hback)

/-! ## Tensors -/

def slots : record.Slots where
  slots := [⟨_, _, _, Draft.shape, _⟩, ⟨_, _, _, Draft.data, _⟩]
  fields := rfl
  apart := by simp [Slot.apart_iff]
  get_set := by simp
  ext draft draft' h := by
    cases draft
    cases draft'
    simpa using h
  blank := by simp [record]

def members (shape : Shape) (items : List Doc) : List (Except ReadError String × Doc) :=
  [(.ok "shape", toDoc shape.toJson), (.ok "data", .list items .closed)]

theorem toDoc_toJson (t : Tensor) :
    toDoc t.toJson = .object (members t.shape (t.data.map fun x => toDoc (.ofSingle x))) .closed := by
  simp only [toJson, toDoc, memberDocs, members, itemDocs_eq_map, List.map_map, Function.comp_def]

theorem sound_toJson (t : Tensor) : t.toJson.Sound := by
  refine .object (List.forall_mem_cons.mpr ⟨t.shape.sound_toJson, List.forall_mem_singleton.mpr ?_⟩)
  exact .list (List.forall_mem_map.mpr fun x _ => sound_ofSingle x)

theorem build_draft (t : Tensor) : record.build ⟨some t.shape, some t.data⟩ =
    if t.shape.numel = t.data.length then .ok t
    else .error (.refused
      s!"shape {t.shape.display} holds {t.shape.numel} elements but {t.data.length} were given") := by
  have hbuild : record.build ⟨some t.shape, some t.data⟩ =
      (ofData t.shape t.data).mapError fun e => .refused e.message := rfl
  rw [hbuild, ofData]
  split <;> rfl

/-- **A shape and values, in either order, are read as what they make up.** -/
theorem read_object (room : Nat) {t : Tensor} {items : List Doc} {written : List (Except ReadError String × Doc)}
    (hperm : written.Perm (members t.shape items)) (hwhole : Doc.Whole (.object written .closed))
    (hdata : Reader.list Reader.single (room + 1) (.list items .closed) = .ok t.data) :
    reader (room + 2) (.object written .closed) = record.build ⟨some t.shape, some t.data⟩ := by
  have hkeys : ∀ m ∈ written, ∃ key, m.1 = .ok key := by
    intro m hm
    have hmem := hperm.mem_iff.mp hm
    simp only [members, List.mem_cons, List.not_mem_nil, or_false] at hmem
    rcases hmem with rfl | rfl
    · exact ⟨"shape", rfl⟩
    · exact ⟨"data", rfl⟩
  have hshapes : valuesOf "shape" written = [toDoc t.shape.toJson] :=
    List.perm_singleton.mp (valuesOf_perm "shape" hperm)
  have hvalues : valuesOf "data" written = [.list items .closed] :=
    List.perm_singleton.mp (valuesOf_perm "data" hperm)
  refine slots.reader_build _ hwhole hkeys ?_
  simp only [slots, List.forall_mem_cons, hshapes, hvalues]
  exact ⟨.one (t.shape.read_toJson room), .one hdata, by simp⟩

theorem read_not_finite (room : Nat) {t : Tensor} (hback : ∀ x ∈ t.data, x.isFinite = true → ReadsBack x)
    (h : ∃ x ∈ t.data, x.isFinite = false) :
    reader (room + 2) (toDoc t.toJson) = .error (.wrongType .null "f32") := by
  have hall : t.data.all (·.isFinite) = false := by simpa using h
  have hdata : Reader.list Reader.single (room + 1) (toDoc (.list (t.data.map .ofSingle))) =
      .error (.wrongType .null "f32") := by
    have hgiven := @Reader.list_given _ _ (.wrongType .null "f32") Reader.single room Json.ofSingle (·.isFinite) id
      t.data fun x hx => read_value room (hback x hx)
    rwa [hall] at hgiven
  have hmembers : Record.readMembers record.fields (room + 1)
      (memberDocs [("shape", t.shape.toJson), ("data", .list (t.data.map .ofSingle))]) record.blank =
      .error (.wrongType .null "f32") := by
    refine (Record.readMembers_ok rfl rfl (t.shape.read_toJson room) _).trans ?_
    refine (Record.readMembers_slot rfl rfl _).trans ?_
    rw [hdata]
    rfl
  rw [reader, toJson, record.reader_object, hmembers]
  rfl

/-- **Texts of tensors.** If all finite numbers read back, an object of a shape and of values, in either order and with
any numerals of the values, decodes exactly when the values are as many as the shape has elements, and a fault states
both numbers otherwise. So a tensor decodes from what it is encoded as, number for number, when all its numbers are
finite; and it does not when one is not. -/
theorem decode_checked (t : Tensor) (hback : ∀ x ∈ t.data, x.isFinite = true → ReadsBack x) :
    (∀ items written (text : String), List.Forall₂ Literal t.data items →
      written.Perm (members t.shape items) → Spelled (.object written .closed) text.toList →
        reader.decode text =
          if t.shape.numel = t.data.length then .ok t
          else .error (.refused
            s!"shape {t.shape.display} holds {t.shape.numel} elements but {t.data.length} were given")) ∧
      (t.Consistent → (∀ x ∈ t.data, x.isFinite = true) → reader.decode t.toJson.compact = .ok t) ∧
      ((∃ x ∈ t.data, x.isFinite = false) →
        reader.decode t.toJson.compact = .error (.wrongType .null "f32")) := by
  have hread : ∀ items written (text : String), List.Forall₂ Literal t.data items →
      written.Perm (members t.shape items) → Spelled (.object written .closed) text.toList →
        reader.decode text = record.build ⟨some t.shape, some t.data⟩ := by
    intro items written text hitems hperm htext
    rw [htext.decode]
    exact read_object 125 hperm htext.whole (read_literals 125 hitems hback)
  rw [build_draft] at hread
  refine ⟨hread, fun hconsistent hfinite => ?_, fun hinfinite => ?_⟩
  · have hitems : List.Forall₂ Literal t.data (t.data.map fun x => toDoc (.ofSingle x)) := by
      rw [List.forall₂_map_right_iff, List.forall₂_same]
      exact fun x hx => .printed (hfinite x hx)
    have htext := t.sound_toJson.spelled
    rw [toDoc_toJson] at htext
    rw [hread _ _ _ hitems (.refl _) htext, if_pos hconsistent.symm]
  · rw [t.sound_toJson.decode_compact]
    exact read_not_finite 125 hback hinfinite

def row : Tensor := ⟨⟨[1, 2]⟩, [0.5, Numeric.single 3]⟩

/-- The row, with its numbers in front, the last of which is a numeral of an integer. -/
def rowBehind : Json := .object [("data", .list [.ofSingle 0.5, .ofInt 3]), ("shape", row.shape.toJson)]

theorem decode_checked_row :
    reader.decode rowBehind.compact = .ok row ∧ reader.decode row.toJson.compact = .ok row := by
  have hback : ∀ x ∈ row.data, x.isFinite = true → ReadsBack x := by
    simp only [row, List.forall_mem_cons]
    exact ⟨fun _ => rfl, fun _ => rfl, by simp⟩
  have hfinite : ∀ x ∈ row.data, x.isFinite = true := List.all_eq_true.mp rfl
  have hsound : rowBehind.Sound := by
    have hdata : (Json.list [.ofSingle 0.5, .ofInt 3]).Sound :=
      .list (by simpa using ⟨sound_ofSingle 0.5, .number (Numeric.sound_ofInt 3)⟩)
    exact .object (by simpa using ⟨hdata, row.shape.sound_toJson⟩)
  have hitems : List.Forall₂ Literal row.data [toDoc (.ofSingle 0.5), toDoc (.ofInt 3)] :=
    .cons (.printed rfl) (.cons (.integer (by decide) (by decide)) .nil)
  obtain ⟨hread, hencoded, _⟩ := decode_checked row hback
  exact ⟨hread _ _ _ hitems (.swap _ _ _) hsound.spelled, hencoded rfl hfinite⟩

end Tensor

end Dataflow
