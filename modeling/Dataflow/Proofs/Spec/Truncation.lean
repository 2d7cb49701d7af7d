/-
Descriptions of nets whose text ends too early. Every part of a description sees the
end of the text (`Reader.SeesEnd`): a number that is cut is still one of its range, so
nothing in front of the end is at fault. A text that ends anywhere inside of the
compact form of a description therefore does not decode, and for no other reason than
that it has ended (`NetSpec.decode_cut`).
-/
import Dataflow.Proofs.Json.Ending
import Dataflow.Proofs.Spec.RoundTrip

namespace Dataflow

open Json

/-! ## Devices -/

theorem DeviceType.seesEnd (room : Nat) (kind : DeviceType) : Reader.SeesEnd reader room kind.toJson where
  whole := ⟨kind, read_toJson room kind⟩
  shortened n n' h := by cases h
  cut d hd := by
    cases hd with
    | ended h => exact ⟨_, rfl, h⟩
    | token hj => exact absurd rfl (hj _)

theorem seesEnd_int32 (room : Nat) (n : Int32) : Reader.SeesEnd readInt32 room (.ofInt n.toInt) := by
  have hleast := n.le_toInt
  have hgreatest := n.toInt_lt
  exact (Reader.seesEnd_integer "i32" room (by omega) (by omega) (by decide) (by decide)).comp Int32.ofInt

theorem seesEnd_uint32 (room : Nat) (n : UInt32) : Reader.SeesEnd readUInt32 room (.ofNat n.toNat) := by
  have hgreatest := n.toNat_lt
  have hinteger : Reader.SeesEnd (Reader.integer 0 4294967295 "u32") room (.ofInt n.toNat) :=
    Reader.seesEnd_integer "u32" room (by omega) (by omega) (by decide) (by decide)
  exact hinteger.comp fun n => UInt32.ofNat n.toNat

theorem DeviceOption.seesEnd (room : Nat) (d : DeviceOption) : Reader.SeesEnd reader (room + 1) d.toJson := by
  refine record.seesEnd ?_ ⟨d, d.read_toJson room⟩
  simp only [List.forall_mem_append, List.forall_mem_cons]
  exact ⟨⟨⟨⟨_, rfl, Field.seesEnd_slot (DeviceType.seesEnd room d.deviceType) ..⟩,
    ⟨_, rfl, Field.seesEnd_slot (seesEnd_int32 room d.deviceId) ..⟩, by simp⟩,
    forall_mem_toList_map fun seed => ⟨_, rfl, Field.seesEnd_slot (seesEnd_uint32 room seed).option ..⟩⟩,
    forall_mem_toList_map fun name => ⟨_, rfl, Field.seesEnd_slot (Reader.seesEnd_text room name).option ..⟩⟩

/-! ## Arguments -/

namespace Argument

def checker : Reader Unit := fun room d => d.check room

theorem checkItems_eq (room : Nat) (ds : List Doc) : checkItems room ds = (ds.mapM (checker room)).map fun _ => () := by
  induction ds with
  | nil => rfl
  | cons d rest ih =>
    rw [List.mapM_cons, checkItems, ih]
    simp only [checker, bind, Except.bind]
    cases d.check room with
    | error e => rfl
    | ok _ => cases rest.mapM (checker room) <;> rfl

theorem checker_list (room : Nat) (ds : List Doc) (ending : Ending) :
    checker room (.list ds ending) = (Reader.list checker room (.list ds ending)).map fun _ => () := by
  cases room with
  | zero => rfl
  | succ inner =>
    simp only [checker, Doc.check, Reader.list, inBracket, checkItems_eq, bind, Except.bind]
    cases ds.mapM (checker inner) with
    | error e => rfl
    | ok _ => cases ending.asList <;> rfl

theorem seesEnd_checker_number {n : Numeric.Numeral} (h : n.Short) (room : Nat) :
    checker.SeesEnd room (.number n) where
  whole := by
    obtain ⟨v, hv⟩ := numeralValue_of_short h
    exact ⟨(), by simp only [checker, toDoc, Doc.check, hv]; rfl⟩
  shortened m n' hm hn' := by
    cases hm
    obtain ⟨v, hv⟩ := numeralValue_of_short (hn'.short h)
    exact ⟨(), by simp only [checker, Doc.check, hv]; rfl⟩
  cut d hd := by
    cases hd with
    | ended h => exact ⟨_, rfl, h⟩
    | token hj h => exact ⟨_, rfl, h⟩

theorem seesEnd_checker_list {items : List Json} {room : Nat} (h : ∀ i ∈ items, checker.SeesEnd room i) :
    checker.SeesEnd (room + 1) (.list items) where
  whole := by
    obtain ⟨as, has⟩ := (Reader.SeesEnd.list h).whole
    exact ⟨(), by rw [toDoc] at has ⊢; rw [checker_list, has]; rfl⟩
  shortened := nofun
  cut d hd := by
    have hread := (Reader.SeesEnd.list h).cut d hd
    cases hd with
    | ended h => exact ⟨_, rfl, h⟩
    | token hj h => exact ⟨_, rfl, h⟩
    | list hds =>
      rw [checker_list]
      exact hread.map _

/-- An argument sees the end of the text when its check does and it is of some kind. -/
theorem seesEnd_of_checker {j : Json} {room : Nat} (h : checker.SeesEnd room j)
    (hwhole : ∃ a, ofDoc (toDoc j) = some a)
    (hshortened : ∀ n n', j = .number n → n.Shortened n' → ∃ a, ofDoc (.number n') = some a) :
    reader.SeesEnd room j where
  whole := by
    obtain ⟨_, hcheck⟩ := h.whole
    obtain ⟨a, ha⟩ := hwhole
    exact ⟨a, by rw [reader_of_check hcheck, ha]⟩
  shortened n n' hj hn' := by
    obtain ⟨_, hcheck⟩ := h.shortened n n' hj hn'
    obtain ⟨a, ha⟩ := hshortened n n' hj hn'
    exact ⟨a, by rw [reader_of_check hcheck, ha]⟩
  cut d hd := (h.cut d hd).bind _

theorem exists_ofDoc_number {n : Numeric.Numeral} (h : n.Short) : ∃ a, ofDoc (.number n) = some a := by
  obtain ⟨v, hv⟩ := numeralValue_of_short h
  exact ⟨ofNumber v, by simp only [ofDoc, Doc.number?, hv]; rfl⟩

theorem seesEnd_number {n : Numeric.Numeral} (h : n.Short) (room : Nat) : reader.SeesEnd room (.number n) := by
  refine seesEnd_of_checker (seesEnd_checker_number h room) (exists_ofDoc_number h) fun m n' hm hn' => ?_
  cases hm
  exact exists_ofDoc_number (hn'.short h)

theorem numbers_of_short {items : List Json} (h : ∀ i ∈ items, ∃ n, i = .number n ∧ n.Short) :
    ∃ vs, (itemDocs items).mapM Doc.number? = some vs := by
  induction items with
  | nil => exact ⟨[], rfl⟩
  | cons i rest ih =>
    obtain ⟨⟨n, rfl, hn⟩, hrest⟩ := List.forall_mem_cons.mp h
    obtain ⟨v, hv⟩ := numeralValue_of_short hn
    obtain ⟨vs, hvs⟩ := ih hrest
    have hnumber : (Doc.number n).number? = some v := by rw [Doc.number?, hv]; rfl
    exact ⟨v :: vs, by rw [itemDocs, toDoc, List.mapM_cons, hnumber, hvs]; rfl⟩

theorem seesEnd_numbers {items : List Json} (h : ∀ i ∈ items, ∃ n, i = .number n ∧ n.Short) (room : Nat) :
    reader.SeesEnd (room + 1) (.list items) := by
  obtain ⟨vs, hvs⟩ := numbers_of_short h
  refine seesEnd_of_checker (seesEnd_checker_list fun i hi => ?_) ⟨ofNumbers vs, by rw [toDoc, ofDoc, hvs]; rfl⟩ nofun
  obtain ⟨n, rfl, hn⟩ := h i hi
  exact seesEnd_checker_number hn room

theorem seesEnd_text (room : Nat) (s : String) : reader.SeesEnd room (.text s) where
  whole := ⟨.text s, rfl⟩
  shortened := nofun
  cut d hd := by
    cases hd with
    | ended h => exact ⟨_, rfl, h⟩
    | token hj => exact absurd rfl (hj s)

theorem short_int64 (n : Int64) : (Numeric.Numeral.ofInt n.toInt).Short := by
  have hleast := n.le_toInt
  have hgreatest := n.toInt_lt
  exact Numeric.Numeral.short_ofInt (by omega) (by omega)

/-- **An argument sees the end of the text**, if its numbers are finite. -/
theorem seesEnd (room : Nat) {a : Argument} (h : ∀ x ∈ a.singles, x.isFinite = true) :
    reader.SeesEnd (room + 1) a.toJson := by
  cases a with
  | int n => exact seesEnd_number (short_int64 n) (room + 1)
  | float x =>
    obtain ⟨n, hn, -, hshort⟩ := ofSingle_short (h x (List.mem_singleton_self x))
    rw [toJson, hn]
    exact seesEnd_number hshort (room + 1)
  | text s => exact seesEnd_text (room + 1) s
  | ints ns => exact seesEnd_numbers (List.forall_mem_map.mpr fun n _ => ⟨_, rfl, short_int64 n⟩) room
  | floats xs =>
    refine seesEnd_numbers (List.forall_mem_map.mpr fun x hx => ?_) room
    obtain ⟨n, hn, -, hshort⟩ := ofSingle_short (h x hx)
    exact ⟨n, hn, hshort⟩

end Argument

/-! ## Operators and nets -/

theorem seesEnd_texts (room : Nat) (names : List String) :
    (Reader.list Reader.text).SeesEnd (room + 1) (.list (names.map .text)) :=
  Reader.SeesEnd.list (List.forall_mem_map.mpr fun name _ => Reader.seesEnd_text room name)

theorem OperatorSpec.seesEnd (room : Nat) {o : OperatorSpec}
    (h : ∀ a ∈ o.arguments, ∀ x ∈ a.singles, x.isFinite = true) : Reader.SeesEnd reader (room + 3) o.toJson := by
  have hargs : (Reader.map Argument.reader).SeesEnd (room + 2)
      (.object (o.args.toList.map fun e => (e.1, e.2.toJson))) :=
    Reader.SeesEnd.map (List.forall_mem_map.mpr fun e he => Argument.seesEnd room (h e.2 (List.mem_map_of_mem he)))
  refine record.seesEnd ?_ ?_
  · simp only [List.forall_mem_append, List.forall_mem_cons]
    refine ⟨⟨⟨⟨_, rfl, Field.seesEnd_slot (Reader.seesEnd_text _ _) ..⟩,
      ⟨_, rfl, Field.seesEnd_slot (Reader.seesEnd_text _ _) ..⟩, ⟨_, rfl, Field.seesEnd_slot (seesEnd_texts _ _) ..⟩,
      ⟨_, rfl, Field.seesEnd_slot (seesEnd_texts _ _) ..⟩, by simp⟩,
      forall_mem_toList_map fun d => ⟨_, rfl, Field.seesEnd_slot (d.seesEnd (room + 1)).option ..⟩⟩, ?_⟩
    split
    · simp
    · rw [List.forall_mem_singleton]
      exact ⟨_, rfl, Field.seesEnd_slot hargs ..⟩
  · obtain ⟨args, hread⟩ := hargs.whole
    have hgiven := hread.trans (given_true Argument.noKind args).symm
    rw [record.reader_object, readMembers_plain]
    split
    · exact ⟨_, o.build_plainDraft none⟩
    · refine ⟨{ o with args }, record.reader_given rfl rfl hgiven ?_⟩
      exact o.build_plainDraft (some args)

theorem NetSpec.seesEnd (room : Nat) {s : NetSpec} (h : ∀ a ∈ s.arguments, ∀ x ∈ a.singles, x.isFinite = true) :
    Reader.SeesEnd reader (room + 5) s.toJson := by
  have hops : (Reader.list OperatorSpec.reader).SeesEnd (room + 4) (.list (s.ops.map OperatorSpec.toJson)) :=
    Reader.SeesEnd.list <| List.forall_mem_map.mpr fun o ho =>
      o.seesEnd room fun a ha => h a (List.mem_flatMap_of_mem ho ha)
  refine record.seesEnd ?_ ?_
  · simp only [List.forall_mem_append, List.forall_mem_cons]
    exact ⟨⟨⟨⟨⟨⟨_, rfl, Field.seesEnd_slot (Reader.seesEnd_text _ _) ..⟩, by simp⟩,
      forall_mem_toList_map fun t => ⟨_, rfl, Field.seesEnd_slot (Reader.seesEnd_text _ t).option ..⟩⟩,
      ⟨_, rfl, Field.seesEnd_slot hops ..⟩, by simp⟩,
      forall_mem_toList_map fun d => ⟨_, rfl, Field.seesEnd_slot (d.seesEnd (room + 3)).option ..⟩⟩,
      ⟨_, rfl, Field.seesEnd_slot (seesEnd_texts _ _) ..⟩, ⟨_, rfl, Field.seesEnd_slot (seesEnd_texts _ _) ..⟩, by simp⟩
  · obtain ⟨ops, hread⟩ := hops.whole
    have hgiven := hread.trans (given_true Argument.noKind ops).symm
    rw [record.reader_object]
    simp only [List.append_assoc, memberDocs_append]
    rw [readMembers_before]
    refine ⟨{ s with ops }, record.reader_given rfl rfl hgiven ?_⟩
    refine (congrArg (Except.bind · record.build) (s.readMembers_behind (room + 2) _ rfl rfl rfl)).trans ?_
    obtain ⟨name, netType, _, device, inputs, outputs⟩ := s
    cases netType <;> cases device <;> rfl

namespace NetSpec

/-- **A text that ends too early does not decode.** If all numbers are finite, what is in front of any place
inside of the compact form of a description fails to decode, and always because the text has ended. -/
theorem decode_cut {s : NetSpec} (hfinite : ∀ a ∈ s.arguments, ∀ x ∈ a.singles, x.isFinite = true)
    {text rest : String} (htext : text ++ rest = s.toJson.compact) (hrest : rest ≠ "") :
    ∃ e, decode text = .error e ∧ e.category = .ended := by
  rcases s.sound_toJson.ofText_cut htext hrest with ⟨n, n', hnumber, -⟩ | hcut
  · cases hnumber
  · obtain ⟨e, he, hcategory⟩ := (NetSpec.seesEnd 122 hfinite).cut _ hcut
    refine ⟨e, ?_, hcategory⟩
    simp only [decode, Reader.decode, he]
    rfl

def halvedStart : String :=
  "\x7b\"name\":\"halved\",\"op\":[\x7b\"type\":\"Scale\",\"name\":\"\",\"inputs\":[],\"outputs\":[]," ++
    "\"args\":\x7b\"by\":0."

def halvedEnd : String := "5,\"skip\":[]\x7d\x7d],\"external_inputs\":[],\"external_outputs\":[]\x7d"

theorem decode_cut_halved :
    halvedStart ++ halvedEnd = halved.toJson.compact ∧ ∃ e, decode halvedStart = .error e ∧ e.category = .ended := by
  have hfinite : ∀ a ∈ halved.arguments, ∀ x ∈ a.singles, x.isFinite = true := isFinite_iff.mp rfl
  have htext : halvedStart ++ halvedEnd = halved.toJson.compact := by decide +kernel
  exact ⟨htext, decode_cut hfinite htext (by decide)⟩

end NetSpec

end Dataflow
