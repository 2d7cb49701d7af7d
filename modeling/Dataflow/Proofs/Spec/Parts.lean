/-
The parts of descriptions, written and read back. A device option reads back as
it is. An argument tries its kinds one after the other: a single precision
number that is finite is never taken for an integer, since its numeral keeps a
fraction or a power of ten (`ReadsBack.real`); one that is not finite is written
as null, which is of no kind; and a list of no numbers reads as one of no
integers, the kind that comes first (`Argument.read_toJson`).
-/
import Dataflow.Proofs.Json.Reading
import Dataflow.Proofs.Json.Single
import Dataflow.Spec.Operator

namespace Dataflow

open Json

/-! ## Devices -/

theorem DeviceType.read_toJson (room : Nat) (kind : DeviceType) : reader room (toDoc kind.toJson) = .ok kind := by
  cases kind <;> rfl

theorem readInt32_ofInt (room : Nat) (n : Int32) : readInt32 room (toDoc (.ofInt n.toInt)) = .ok n := by
  have hread := Reader.integer_ofInt "i32" room (show -2147483648 ≤ n.toInt from n.le_toInt)
    (show n.toInt ≤ 2147483647 from Int.le_of_lt_add_one n.toInt_lt) (by decide)
  rw [readInt32, hread]
  exact congrArg Except.ok n.ofInt_toInt

theorem readUInt32_ofNat (room : Nat) (n : UInt32) : readUInt32 room (toDoc (.ofNat n.toNat)) = .ok n := by
  have hlt := n.toNat_lt
  have hread := Reader.integer_ofInt "u32" room (show (0 : Int) ≤ n.toNat by omega)
    (show (n.toNat : Int) ≤ 4294967295 by omega) (by decide)
  rw [readUInt32, Json.ofNat, hread]
  exact congrArg Except.ok UInt32.ofNat_toNat

theorem ofNat_not_null (n : Nat) : toDoc (.ofNat n) ≠ .null := by simp [Json.ofNat, Json.ofInt, toDoc]

/-- **A device option reads back.** -/
theorem DeviceOption.read_toJson (room : Nat) (d : DeviceOption) : reader (room + 1) (toDoc d.toJson) = .ok d := by
  obtain ⟨kind, id, seed, name⟩ := d
  refine record.reader_ok ⟨some kind, some id, seed.map some, name.map some⟩ ?_ (by cases seed <;> cases name <;> rfl)
  rw [List.append_assoc, memberDocs_append, memberDocs_append, ← List.append_nil (memberDocs (name.map _).toList)]
  refine (Record.readMembers_ok rfl rfl (DeviceType.read_toJson room kind) _).trans ?_
  refine (Record.readMembers_ok rfl rfl (readInt32_ofInt room id) _).trans ?_
  refine (Record.readMembers_optional rfl rfl (fun a => ⟨readUInt32_ofNat room a, ofNat_not_null _⟩) _).trans ?_
  refine (Record.readMembers_optional rfl (by cases seed <;> rfl) (fun _ => ⟨rfl, by simp [toDoc]⟩) _).trans ?_
  cases seed <;> cases name <;> rfl

theorem DeviceOption.toJson_not_null (d : DeviceOption) : toDoc d.toJson ≠ .null := by simp [toJson, toDoc]

/-! ## Arguments -/

namespace Argument

def singles : Argument → List Float32
  | float x => [x]
  | floats xs => xs
  | _ => []

def isFinite (a : Argument) : Bool := a.singles.all (·.isFinite)

/-- What an argument of finite numbers is read back as: a list of no numbers as one of integers. -/
def settled : Argument → Argument
  | floats [] => ints []
  | a => a

theorem settled_eq_self {a : Argument} : a.settled = a ↔ a ≠ .floats [] := by
  unfold settled
  split
  · simp
  next hother => simpa using hother

end Argument

/-- The text that is written for a single precision number is read as this number. -/
def ReadsBack (x : Float32) : Prop := Reader.single.decode (Json.ofSingle x).compact = .ok x

/-- A finite number that reads back is a number of its own, not an integer. -/
theorem ReadsBack.real {x : Float32} (h : ReadsBack x) (hfinite : x.isFinite = true) :
    ∃ n y, Json.ofSingle x = .number n ∧ numeralValue n = .ok (.real y) ∧ (Number.real y).single = x := by
  obtain ⟨n, hn, hsound, hwhole⟩ := ofSingle_of_finite hfinite
  rw [ReadsBack, hn, (Sound.number hsound).decode_compact] at h
  cases hvalue : numeralValue n with
  | error e => simp only [toDoc, Reader.single, hvalue] at h; cases h
  | ok v =>
    simp only [toDoc, Reader.single, hvalue] at h
    -- A numeral with a fraction or a power of ten has no integer as its value.
    obtain ⟨y, rfl⟩ : ∃ y, v = .real y := by
      simp only [numeralValue, hwhole, Bool.false_and, Bool.false_eq_true, if_false] at hvalue
      cases hm : magnitude n with
      | error e => rw [hm] at hvalue; cases hvalue
      | ok y => rw [hm] at hvalue; exact ⟨_, (Except.ok.inj hvalue).symm⟩
    exact ⟨n, y, hn, hvalue, Except.ok.inj h⟩

namespace Argument

def noKind : ReadError := .noVariant "Argument"

theorem int64?_ofInt (n : Int64) : (Number.ofInt n.toInt).int64? = some n := by
  have hgreatest := n.toInt_lt
  unfold Number.ofInt
  split
  next hneg =>
    have habs : -(n.toInt.natAbs : Int) = n.toInt := by omega
    simp only [Number.int64?, habs, n.ofInt_toInt]
  next hneg =>
    have hlt : n.toInt.natAbs < 9223372036854775808 := by omega
    have habs : (n.toInt.natAbs : Int) = n.toInt := by omega
    have hn : Int64.ofNat n.toInt.natAbs = n := by
      rw [← Int64.ofInt_eq_ofNat, habs, n.ofInt_toInt]
    simp only [Number.int64?, hlt, if_true, hn]

theorem numeralValue_int64 (n : Int64) : numeralValue (.ofInt n.toInt) = .ok (Number.ofInt n.toInt) := by
  have hleast := n.le_toInt
  have hgreatest := n.toInt_lt
  exact numeralValue_ofInt (by omega) (by omega)

/-- A sound value is an argument of its kind, if it has one. -/
theorem reader_of_check {d : Doc} {room : Nat} (h : d.check room = .ok ()) :
    reader room d = match ofDoc d with
      | some argument => .ok argument
      | none => .error noKind := by
  simp only [reader, h]
  rfl

theorem read_number {n : Numeric.Numeral} {v : Number} (h : numeralValue n = .ok v) (room : Nat) :
    reader room (.number n) = .ok (ofNumber v) := by
  simp only [reader, Doc.check, ofDoc, Doc.number?, h]
  rfl

theorem read_list {α : Type} {write : α → Json} {room : Nat} {xs : List α}
    (h : ∀ x ∈ xs, (toDoc (write x)).check room = .ok ()) :
    reader (room + 1) (toDoc (.list (xs.map write))) =
      match xs.mapM fun x => (toDoc (write x)).number? with
      | some vs => .ok (ofNumbers vs)
      | none => .error noKind := by
  have hcheck : checkItems room (itemDocs (xs.map write)) = .ok () := by
    induction xs with
    | nil => rfl
    | cons x xs ih =>
      obtain ⟨hx, hxs⟩ := List.forall_mem_cons.mp h
      simp only [List.map_cons, itemDocs, checkItems, hx, ih hxs]
      rfl
  have hvalues : (itemDocs (xs.map write)).mapM Doc.number? = xs.mapM fun x => (toDoc (write x)).number? := by
    rw [itemDocs_eq_map, List.map_map, List.mapM_map]
    rfl
  simp only [reader, toDoc, Doc.check, inBracket, hcheck, ofDoc, hvalues]
  cases xs.mapM fun x => (toDoc (write x)).number? <;> rfl

theorem read_ints (room : Nat) (ns : List Int64) :
    reader (room + 1) (toDoc (toJson (.ints ns))) = .ok (.ints ns) := by
  have hvalue (n : Int64) : (toDoc (.ofInt n.toInt)).number? = some (Number.ofInt n.toInt) := by
    simp only [Json.ofInt, toDoc, Doc.number?, numeralValue_int64, Except.toOption]
  have hcheck (n : Int64) : (toDoc (.ofInt n.toInt)).check room = .ok () := by
    simp only [Json.ofInt, toDoc, Doc.check, numeralValue_int64, Except.map]
  have hvalues : (ns.mapM fun n => (toDoc (.ofInt n.toInt)).number?) = some (ns.map fun n => Number.ofInt n.toInt) := by
    simp only [hvalue]
    exact List.mapM_pure
  have hints : (ns.map fun n => Number.ofInt n.toInt).mapM Number.int64? = some ns := by
    rw [List.mapM_map]
    simp only [Function.comp_def, int64?_ofInt]
    exact List.mapM_pure.trans (congrArg some (List.map_id ns))
  rw [toJson, read_list fun n _ => hcheck n, hvalues]
  simp only [ofNumbers, hints]

theorem numbers_of_finite {xs : List Float32} (h : ∀ x ∈ xs, x.isFinite = true ∧ ReadsBack x) :
    ∃ ys : List Float, (xs.mapM fun x => (toDoc (.ofSingle x)).number?) = some (ys.map .real) ∧
      (ys.map .real).map Number.single = xs := by
  induction xs with
  | nil => exact ⟨[], rfl, rfl⟩
  | cons x xs ih =>
    obtain ⟨⟨hfinite, hback⟩, hxs⟩ := List.forall_mem_cons.mp h
    obtain ⟨ys, hys, hsingles⟩ := ih hxs
    obtain ⟨n, y, hn, hvalue, hsingle⟩ := hback.real hfinite
    have hnumber : (toDoc (.ofSingle x)).number? = some (.real y) := by
      simp only [hn, toDoc, Doc.number?, hvalue, Except.toOption]
    refine ⟨y :: ys, ?_, by rw [List.map_cons, List.map_cons, hsingle, hsingles]⟩
    rw [List.mapM_cons, hnumber, hys]
    rfl

theorem numbers_of_not_finite {xs : List Float32} (h : xs.all (·.isFinite) = false) :
    (xs.mapM fun x => (toDoc (.ofSingle x)).number?) = none := by
  induction xs with
  | nil => cases h
  | cons x xs ih =>
    rw [List.mapM_cons]
    cases hx : x.isFinite with
    | false => rw [ofSingle_of_not_finite hx]; rfl
    | true =>
      rw [List.all_cons, hx, Bool.true_and] at h
      rw [ih h]
      cases (toDoc (.ofSingle x)).number? <;> rfl

theorem check_ofSingle {x : Float32} (h : x.isFinite = true → ReadsBack x) (room : Nat) :
    (toDoc (.ofSingle x)).check room = .ok () := by
  cases hx : x.isFinite with
  | false => rw [ofSingle_of_not_finite hx]; rfl
  | true =>
    obtain ⟨n, y, hn, hvalue, -⟩ := (h hx).real hx
    simp only [hn, toDoc, Doc.check, hvalue]
    rfl

theorem read_floats (room : Nat) {xs : List Float32} (h : ∀ x ∈ xs, x.isFinite = true → ReadsBack x) :
    reader (room + 1) (toDoc (toJson (.floats xs))) = given noKind (xs.all (·.isFinite)) (settled (.floats xs)) := by
  rw [toJson, read_list fun x hx => check_ofSingle (h x hx) room]
  cases hall : xs.all (·.isFinite) with
  | false => rw [numbers_of_not_finite hall]; rfl
  | true =>
    have hfinite := List.all_eq_true.mp hall
    obtain ⟨ys, hys, hsingles⟩ := numbers_of_finite fun x hx => ⟨hfinite x hx, h x hx (hfinite x hx)⟩
    rw [hys]
    cases ys with
    | nil => subst hsingles; rfl
    | cons y ys =>
      have hfloats : ofNumbers ((y :: ys).map .real) = .floats (((y :: ys).map .real).map Number.single) := rfl
      simp only [hfloats, hsingles, given_true]
      subst hsingles
      rfl

/-- **An argument reads back, if its numbers are finite**: unchanged, but for a list of no numbers. -/
theorem read_toJson (room : Nat) {a : Argument} (h : ∀ x ∈ a.singles, x.isFinite = true → ReadsBack x) :
    reader (room + 1) (toDoc a.toJson) = given noKind a.isFinite a.settled := by
  cases a with
  | int n =>
    have hread := read_number (numeralValue_int64 n) (room + 1)
    simp only [ofNumber, int64?_ofInt] at hread
    exact hread
  | float x =>
    have hx := h x (List.mem_singleton_self x)
    cases hfinite : x.isFinite with
    | false =>
      simp only [toJson, ofSingle_of_not_finite hfinite, isFinite, singles, List.all_cons, hfinite, Bool.false_and]
      rfl
    | true =>
      obtain ⟨n, y, hn, hvalue, hsingle⟩ := (hx hfinite).real hfinite
      have hread := read_number hvalue (room + 1)
      have hreal : ofNumber (.real y) = .float (Number.real y).single := rfl
      rw [toJson, hn]
      simp only [isFinite, singles, List.all_cons, hfinite, List.all_nil, Bool.true_and, given_true, toDoc, hread]
      rw [hreal, hsingle]
      rfl
  | text s => rfl
  | ints ns => exact read_ints room ns
  | floats xs => exact read_floats room h

end Argument

/-! ## Sound values -/

theorem forall_mem_toList_map {α β : Type} {value : Option α} {f : α → β} {p : β → Prop} (h : ∀ a, p (f a)) :
    ∀ b ∈ (value.map f).toList, p b := by
  cases value <;> simp [h]

theorem sound_texts (names : List String) : (Json.list (names.map .text)).Sound := by
  refine .list fun item hitem => ?_
  obtain ⟨name, -, rfl⟩ := List.mem_map.mp hitem
  exact .text name

theorem sound_ofSingle (x : Float32) : (Json.ofSingle x).Sound := by
  cases hx : x.isFinite with
  | false => rw [ofSingle_of_not_finite hx]; exact .null
  | true =>
    obtain ⟨n, hn, hsound, -⟩ := ofSingle_of_finite hx
    rw [hn]
    exact .number hsound

theorem DeviceOption.sound_toJson (d : DeviceOption) : d.toJson.Sound := by
  refine .object ?_
  simp only [List.forall_mem_append, List.forall_mem_cons]
  exact ⟨⟨⟨.text _, .number (Numeric.sound_ofInt _), by simp⟩,
    forall_mem_toList_map fun seed => .number (Numeric.sound_ofInt _)⟩, forall_mem_toList_map fun name => .text name⟩

theorem Argument.sound_toJson (a : Argument) : a.toJson.Sound := by
  cases a with
  | int n => exact .number (Numeric.sound_ofInt _)
  | float x => exact sound_ofSingle x
  | text s => exact .text s
  | ints ns => exact .list (List.forall_mem_map.mpr fun n _ => .number (Numeric.sound_ofInt _))
  | floats xs => exact .list (List.forall_mem_map.mpr fun x _ => sound_ofSingle x)

end Dataflow
