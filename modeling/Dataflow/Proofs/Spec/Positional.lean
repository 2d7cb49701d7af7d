/-
Descriptions by position. A net, each of its operators and every device may be
an object, or a list of the values of its fields in the order of the
declaration, in which the last ones may be missing where they are the default.
Whatever mixture of the two is taken, the text decodes to the description that
its object text decodes to. A list that ends before a field without default, or
goes on behind the last field, does not decode (`NetSpec.decode_formed`).
-/
import Dataflow.Proofs.Json.Positions
import Dataflow.Proofs.Spec.Spellings

namespace Dataflow

open Json

/-! ## Devices -/

namespace DeviceOption

inductive Formed (o : DeviceOption) (d : Doc) : Prop
  | record {members : List (Except ReadError String × Doc)} (h : Doc.RecordOf fieldNames members d)
    (hmembers : o.SpelledBy (.object members .closed)) : Formed o d

inductive Misfit : Doc → Prop
  | long {items : List Doc} (h : fieldNames.length < items.length) : Misfit (.list items .closed)

theorem Formed.not_null {o : DeviceOption} {d : Doc} (h : o.Formed d) : d ≠ .null := by
  cases h with
  | record h _ => exact h.not_null

theorem Misfit.not_null {d : Doc} (h : Misfit d) : d ≠ .null := by
  cases h
  exact nofun

theorem read_formed (room : Nat) {o : DeviceOption} {d : Doc} (h : o.Formed d) (hwhole : d.Whole) :
    reader (room + 2) d = .ok o := by
  cases h with
  | record h hmembers =>
    have hoptional : ∀ s ∈ slots.slots, s.required = false := by simp [slots]
    refine slots.reader_record rfl h (fun s hs hrequired => ?_) (read_spelled room hmembers (h.whole hwhole))
    rw [hoptional s hs] at hrequired
    cases hrequired

theorem read_misfit {d : Doc} (h : Misfit d) (room : Nat) (o : DeviceOption) : reader room d ≠ .ok o := by
  cases h with
  | long h => exact slots.reader_list_long h o

end DeviceOption

/-! ## Operators -/

namespace OperatorSpec

inductive Formed (o : OperatorSpec) (d : Doc) : Prop
  | record {members : List (Except ReadError String × Doc)} (h : Doc.RecordOf fieldNames members d)
    (hfields : o.Fields DeviceOption.Formed members) : Formed o d

/-- A list of the operator without a type, or one of the operator or of its device that goes on behind the last
field. -/
inductive Misfit : Doc → Prop
  | untyped : Misfit (.list [] .closed)
  | long {items : List Doc} (h : fieldNames.length < items.length) : Misfit (.list items .closed)
  | device {members : List (Except ReadError String × Doc)} {d value : Doc} (h : Doc.RecordOf fieldNames members d)
    (hvalue : value ∈ valuesOf "device_option" members) (hmisfit : DeviceOption.Misfit value) : Misfit d

theorem read_formed (room : Nat) {o : OperatorSpec} {d : Doc} (h : o.Formed d) (hwhole : d.Whole)
    (hplain : ∀ a ∈ o.arguments, a.Plain) : reader (room + 4) d = .ok o := by
  cases h with
  | record h hfields =>
    have hread := Fields.read_object room hfields (h.whole hwhole) hplain fun _ _ hd hwhole =>
      ⟨hd.not_null, DeviceOption.read_formed (room + 1) hd hwhole⟩
    have htype : ∀ s ∈ slots.slots, s.required = true → s.key = "type" := by simp [slots]
    refine slots.reader_record rfl h (fun s hs hrequired => ?_) hread
    rw [htype s hs hrequired]
    exact hfields.opType.ne_nil

theorem read_misfit {d : Doc} (h : Misfit d) (room : Nat) (o : OperatorSpec) : reader room d ≠ .ok o := by
  cases h with
  | untyped => exact slots.reader_list_short (s := slots.slots[0]) (List.mem_cons_self ..) rfl o
  | long h => exact slots.reader_list_long h o
  | device h hvalue hmisfit =>
    exact slots.reader_record_untaken rfl h (s := slots.slots[4]) (List.getElem_mem _) hvalue
      (fun inner => Reader.option_untaken hmisfit.not_null (DeviceOption.read_misfit hmisfit inner)) o

end OperatorSpec

/-! ## Nets -/

namespace NetSpec

/-- The trees of the description of a net, it, its operators and every device as an object or as a list. -/
inductive Formed (s : NetSpec) (d : Doc) : Prop
  | record {members : List (Except ReadError String × Doc)} (h : Doc.RecordOf fieldNames members d)
    (hfields : s.Fields OperatorSpec.Formed DeviceOption.Formed members) : Formed s d

/-- A list of the net without a name, one of an operator without a type, or one of the net, of an operator or of a
device that goes on behind the last field. -/
inductive Misfit : Doc → Prop
  | unnamed : Misfit (.list [] .closed)
  | long {items : List Doc} (h : fieldNames.length < items.length) : Misfit (.list items .closed)
  | device {members : List (Except ReadError String × Doc)} {d value : Doc} (h : Doc.RecordOf fieldNames members d)
    (hvalue : value ∈ valuesOf "device_option" members) (hmisfit : DeviceOption.Misfit value) : Misfit d
  | operator {members : List (Except ReadError String × Doc)} {d value : Doc} {items : List Doc}
    (h : Doc.RecordOf fieldNames members d) (hitems : .list items .closed ∈ valuesOf "op" members)
    (hvalue : value ∈ items) (hmisfit : OperatorSpec.Misfit value) : Misfit d

theorem read_formed (room : Nat) {s : NetSpec} {d : Doc} (h : s.Formed d) (hwhole : d.Whole)
    (hplain : ∀ a ∈ s.arguments, a.Plain) : reader (room + 6) d = .ok s := by
  cases h with
  | record h hfields =>
    have hread := Fields.read_object room hfields (h.whole hwhole) hplain
      (fun _ _ ho hwhole hplain => OperatorSpec.read_formed room ho hwhole hplain)
      fun _ _ hd hwhole => ⟨hd.not_null, DeviceOption.read_formed (room + 3) hd hwhole⟩
    have hname : ∀ s ∈ slots.slots, s.required = true → s.key = "name" := by simp [slots]
    refine slots.reader_record rfl h (fun s hs hrequired => ?_) hread
    rw [hname s hs hrequired]
    exact hfields.name.ne_nil

theorem read_misfit {d : Doc} (h : Misfit d) (room : Nat) (s : NetSpec) : reader room d ≠ .ok s := by
  cases h with
  | unnamed => exact slots.reader_list_short (s := slots.slots[0]) (List.mem_cons_self ..) rfl s
  | long h => exact slots.reader_list_long h s
  | device h hvalue hmisfit =>
    exact slots.reader_record_untaken rfl h (s := slots.slots[3]) (List.getElem_mem _) hvalue
      (fun inner => Reader.option_untaken hmisfit.not_null (DeviceOption.read_misfit hmisfit inner)) s
  | operator h hitems hvalue hmisfit =>
    exact slots.reader_record_untaken rfl h (s := slots.slots[2]) (List.getElem_mem _) hitems
      (fun _ => Reader.list_untaken hvalue fun inner => OperatorSpec.read_misfit hmisfit inner) s

/-- **The positional texts of a description decode as its object text does**, if all numbers are finite, their texts
read back and no argument is a list of no numbers: the net, any of its operators and any device may be a list of the
values of the fields in their order, with `null` for what is absent, and such a list may leave out fields from its end
that have their default. A text with a list that is too short for a required field, or has more items than there are
fields, does not decode. -/
theorem decode_formed (s : NetSpec) (hback : ∀ a ∈ s.arguments, ∀ x ∈ a.singles, x.isFinite = true → ReadsBack x)
    (hfinite : ∀ a ∈ s.arguments, ∀ x ∈ a.singles, x.isFinite = true) (hempty : ∀ a ∈ s.arguments, a ≠ .floats [])
    {d : Doc} {text : String} (htext : Spelled d text.toList) :
    (s.Formed d → decode text = .ok s ∧ decode s.toJson.compact = .ok s) ∧
      (Misfit d → ∃ e, decode text = .error e) := by
  rw [decode, htext.decode]
  constructor
  · intro hs
    refine ⟨read_formed 121 hs htext.whole fun a ha => ⟨fun x hx => ?_, hempty a ha⟩, ?_⟩
    · exact ⟨hfinite a ha x hx, hback a ha x hx (hfinite a ha x hx)⟩
    · rw [decode, s.sound_toJson.decode_compact]
      refine (read_toJson 122 hback).trans ?_
      rw [isFinite_iff.mpr hfinite, settled_eq_self.mpr hempty, given_true]
  · intro hmisfit
    cases hread : reader 127 d with
    | error e => exact ⟨e, rfl⟩
    | ok s' => exact absurd hread (read_misfit hmisfit 127 s')

def placed : NetSpec where
  name := "placed"
  ops := [{ opType := "Scale", args := .ofList [("by", .float 0.5)] }]
  deviceOption := some (.cuda 2)

/-- The net by position, and so its operator and its device. What is external is left out from the end, and so is the
seed of the device and what follows it. -/
def laidOut : Json := .list
  [.text "placed", .null,
    .list [.list [.text "Scale", .text "", .list [], .list [], .null, .object [("by", .ofSingle 0.5)]]],
    .list [.text "cuda", .ofInt 2]]

def untyped : Json := .list [.text "placed", .null, .list [.list []]]

theorem formed_laidOut : placed.Formed (toDoc laidOut) := by
  have hdevice : (DeviceOption.cuda 2).Formed (toDoc (.list [.text "cuda", .ofInt 2])) := by
    refine .record (.list (by decide)) (.object ?_ (.inr ⟨_, .inl rfl, rfl⟩) (.inr ⟨_, rfl, rfl⟩) (.inl ⟨rfl, rfl⟩)
      (.inl ⟨rfl, rfl⟩))
    simp [named, DeviceOption.fieldNames, itemDocs]
  have hop : ({ opType := "Scale", args := .ofList [("by", .float 0.5)] } : OperatorSpec).Formed (toDoc (.list
      [.text "Scale", .text "", .list [], .list [], .null, .object [("by", .ofSingle 0.5)]])) := by
    have hentries : [("by", Argument.float 0.5)].Perm (NameMap.ofList [("by", .float 0.5)]).entries := .refl _
    refine .record (.list (by decide)) ⟨?_, .inr ⟨_, rfl, rfl⟩, .inr ⟨_, rfl, rfl⟩, .inr ⟨_, rfl, rfl⟩,
      .inr ⟨_, rfl, rfl⟩, .inr ⟨_, rfl, rfl⟩, .inr ⟨_, .object hentries, rfl⟩⟩
    simp [named, OperatorSpec.fieldNames, itemDocs]
  refine .record (.list (by decide)) ⟨?_, .inr ⟨_, rfl, rfl⟩, .inr ⟨_, rfl, rfl⟩,
    .inr ⟨_, ⟨_, rfl, .cons hop .nil⟩, rfl⟩, .inr ⟨_, hdevice, rfl⟩, .inl ⟨rfl, rfl⟩, .inl ⟨rfl, rfl⟩⟩
  simp [named, fieldNames, itemDocs]

theorem misfit_untyped : Misfit (toDoc untyped) :=
  .operator (.list (by decide)) (.head _) (.head _) .untyped

theorem decode_formed_laidOut :
    decode laidOut.compact = .ok placed ∧ ∃ e, decode untyped.compact = .error e := by
  have harguments : placed.arguments = [.float 0.5] := rfl
  have hback : ∀ a ∈ placed.arguments, ∀ x ∈ a.singles, x.isFinite = true → ReadsBack x := by
    rw [harguments, List.forall_mem_singleton]
    exact List.forall_mem_singleton.mpr fun _ => rfl
  have hfinite : ∀ a ∈ placed.arguments, ∀ x ∈ a.singles, x.isFinite = true := isFinite_iff.mp rfl
  have hempty : ∀ a ∈ placed.arguments, a ≠ .floats [] := by simp [harguments]
  have hlaidOut : laidOut.Sound := by
    have hargs : (Json.object [("by", .ofSingle 0.5)]).Sound := .object (by simpa using sound_ofSingle 0.5)
    have hop :
        (Json.list [.text "Scale", .text "", .list [], .list [], .null, .object [("by", .ofSingle 0.5)]]).Sound :=
      .list (by simpa using ⟨.text _, .text _, .list (by simp), .null, hargs⟩)
    have hdevice : (Json.list [.text "cuda", .ofInt 2]).Sound :=
      .list (by simpa using ⟨.text _, .number (Numeric.sound_ofInt 2)⟩)
    exact .list (by simpa using ⟨.text _, .null, .list (by simpa using hop), hdevice⟩)
  have huntyped : untyped.Sound :=
    .list (by simpa using ⟨.text _, .null, .list (by simpa using .list (by simp))⟩)
  exact ⟨((decode_formed placed hback hfinite hempty hlaidOut.spelled).1 formed_laidOut).1,
    (decode_formed placed hback hfinite hempty huntyped.spelled).2 misfit_untyped⟩

end NetSpec

end Dataflow
