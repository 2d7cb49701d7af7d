/-
The many texts of one description. Nets, operators and devices are written as
objects of their fields in any order, with any other members between them, and a
field may be left out where its value is the default. Whatever way is taken, the
text decodes to the description, and no text decodes where one of these objects
has a field twice (`NetSpec.decode_spelled`).
-/
import Dataflow.Proofs.Json.Members
import Dataflow.Proofs.Spec.RoundTrip

namespace Dataflow

open Json

/-! ## Devices -/

namespace DeviceType

/-- A kind is written by its name, or as an object with the name as its only key. -/
def SpelledBy (kind : DeviceType) (d : Doc) : Prop :=
  d = .text (.ok kind.name) ∨ d = .object [(.ok kind.name, .null)] .closed

theorem read_spelled (room : Nat) {kind : DeviceType} {d : Doc} (h : kind.SpelledBy d) :
    reader (room + 1) d = .ok kind := by
  rcases h with rfl | rfl <;> cases kind <;> rfl

end DeviceType

namespace DeviceOption

/-- The trees of a device option. -/
inductive SpelledBy (o : DeviceOption) : Doc → Prop
  | object {members : List (Except ReadError String × Doc)} (keys : ∀ m ∈ members, ∃ key, m.1 = .ok key)
    (deviceType : Written "device_type" members (o.deviceType = .cpu) o.deviceType.SpelledBy)
    (deviceId : Written "device_id" members (o.deviceId = 0) (· = toDoc (.ofInt o.deviceId.toInt)))
    (randomSeed : Written "random_seed" members (o.randomSeed = none)
      (SpellsOption (fun seed d => d = toDoc (.ofNat seed.toNat)) o.randomSeed))
    (nodeName : Written "node_name" members (o.nodeName = none)
      (SpellsOption (fun name d => d = toDoc (.text name)) o.nodeName)) :
    SpelledBy o (.object members .closed)

def fieldNames : List String := ["device_type", "device_id", "random_seed", "node_name"]

inductive Repeats : Doc → Prop
  | field {members : List (Except ReadError String × Doc)} {ending : Ending} (h : RepeatsName fieldNames members) :
    Repeats (.object members ending)

def slots : record.Slots where
  slots := [⟨_, _, _, Draft.deviceType, _⟩, ⟨_, _, _, Draft.deviceId, _⟩, ⟨_, _, _, Draft.randomSeed, _⟩,
    ⟨_, _, _, Draft.nodeName, _⟩]
  fields := rfl
  apart := by simp [Slot.apart_iff]
  get_set := by simp
  ext draft draft' h := by
    cases draft
    cases draft'
    simpa using h
  blank := by simp [record]

theorem read_spelled (room : Nat) {o : DeviceOption} {d : Doc} (h : o.SpelledBy d) (hwhole : d.Whole) :
    reader (room + 2) d = .ok o := by
  cases h with
  | object keys deviceType deviceId randomSeed nodeName =>
  obtain ⟨kind, hkind, hkind'⟩ := deviceType.fills_default (DeviceType.reader (room + 1))
    fun d _ hd => DeviceType.read_spelled room hd
  obtain ⟨id, hid, hid'⟩ := deviceId.fills_default (readInt32 (room + 1))
    fun d _ hd => hd ▸ readInt32_ofInt (room + 1) o.deviceId
  obtain ⟨seed, hseed, hseed'⟩ := randomSeed.fills_default (Reader.option readUInt32 (room + 1))
    fun d _ hd => Reader.option_ok hd fun seed hseed => hseed ▸ ⟨ofNat_not_null _, readUInt32_ofNat (room + 1) seed⟩
  obtain ⟨name, hname, hname'⟩ := nodeName.fills_default (Reader.option Reader.text (room + 1))
    fun d _ hd => Reader.option_ok hd fun name hname => hname ▸ ⟨by simp [toDoc], rfl⟩
  refine slots.reader_ok ⟨kind, id, seed, name⟩ hwhole keys ?_ ?_
  · simp only [slots, List.forall_mem_cons]
    exact ⟨hkind, hid, hseed, hname, by simp⟩
  · simp only [record, hkind', hid', hseed', hname']

theorem read_repeated {d : Doc} (h : Repeats d) (room : Nat) (o : DeviceOption) : reader room d ≠ .ok o := by
  cases h with
  | field h => exact slots.reader_repeated h o

theorem SpelledBy.not_null {o : DeviceOption} {d : Doc} (h : o.SpelledBy d) : d ≠ .null := by
  cases h
  exact nofun

theorem Repeats.not_null {d : Doc} (h : Repeats d) : d ≠ .null := by
  cases h
  exact nofun

end DeviceOption

/-! ## Operators -/

/-- An argument that comes back as it is: its numbers are finite and read back, and it is no list of no
numbers. -/
def Argument.Plain (a : Argument) : Prop := (∀ x ∈ a.singles, x.isFinite = true ∧ ReadsBack x) ∧ a ≠ .floats []

theorem Argument.Plain.read_toJson (room : Nat) {a : Argument} (h : a.Plain) :
    reader (room + 1) (toDoc a.toJson) = .ok a := by
  obtain ⟨hsingles, hempty⟩ := h
  have hread := Argument.read_toJson room fun x hx _ => (hsingles x hx).2
  have hfinite : a.isFinite = true := List.all_eq_true.mpr fun x hx => (hsingles x hx).1
  rwa [hfinite, given_true, Argument.settled_eq_self.mpr hempty] at hread

namespace OperatorSpec

inductive SpellsArgs (args : NameMap Argument) : Doc → Prop
  | object {entries : List (String × Argument)} (h : entries.Perm args.entries) :
    SpellsArgs args (toDoc (.object (entries.map fun e => (e.1, e.2.toJson))))

inductive SpelledBy (o : OperatorSpec) : Doc → Prop
  | object {members : List (Except ReadError String × Doc)} (keys : ∀ m ∈ members, ∃ key, m.1 = .ok key)
    (opType : Written "type" members False (· = toDoc (.text o.opType)))
    (name : Written "name" members (o.name = "") (· = toDoc (.text o.name)))
    (inputs : Written "inputs" members (o.inputs = []) (· = toDoc (.list (o.inputs.map .text))))
    (outputs : Written "outputs" members (o.outputs = []) (· = toDoc (.list (o.outputs.map .text))))
    (deviceOption : Written "device_option" members (o.deviceOption = none)
      (SpellsOption DeviceOption.SpelledBy o.deviceOption))
    (args : Written "args" members (o.args = .empty) (SpellsArgs o.args)) :
    SpelledBy o (.object members .closed)

def fieldNames : List String := ["type", "name", "inputs", "outputs", "device_option", "args"]

/-- Some field comes twice, of the operator or of its device. -/
inductive Repeats : Doc → Prop
  | field {members : List (Except ReadError String × Doc)} {ending : Ending} (h : RepeatsName fieldNames members) :
    Repeats (.object members ending)
  | device {members : List (Except ReadError String × Doc)} {ending : Ending} {d : Doc}
    (hd : d ∈ valuesOf "device_option" members) (h : DeviceOption.Repeats d) : Repeats (.object members ending)

def slots : record.Slots where
  slots := [⟨_, _, _, Draft.opType, _⟩, ⟨_, _, _, Draft.name, _⟩, ⟨_, _, _, Draft.inputs, _⟩,
    ⟨_, _, _, Draft.outputs, _⟩, ⟨_, _, _, Draft.deviceOption, _⟩, ⟨_, _, _, Draft.args, _⟩]
  fields := rfl
  apart := by simp [Slot.apart_iff]
  get_set := by simp
  ext draft draft' h := by
    cases draft
    cases draft'
    simpa using h
  blank := by simp [record]

theorem read_args (room : Nat) {args : NameMap Argument} {d : Doc} (h : SpellsArgs args d)
    (hplain : ∀ e ∈ args.entries, e.2.Plain) : Reader.map Argument.reader (room + 2) d = .ok args := by
  cases h with
  | object hperm => exact Reader.map_perm hperm fun e he => (hplain e (hperm.mem_iff.mp he)).read_toJson room

/-- The members of the description of an operator, whose device is written in some way. -/
structure Fields (device : DeviceOption → Doc → Prop) (o : OperatorSpec)
    (members : List (Except ReadError String × Doc)) : Prop where
  keys : ∀ m ∈ members, ∃ key, m.1 = .ok key
  opType : Written "type" members False (· = toDoc (.text o.opType))
  name : Written "name" members (o.name = "") (· = toDoc (.text o.name))
  inputs : Written "inputs" members (o.inputs = []) (· = toDoc (.list (o.inputs.map .text)))
  outputs : Written "outputs" members (o.outputs = []) (· = toDoc (.list (o.outputs.map .text)))
  deviceOption : Written "device_option" members (o.deviceOption = none) (SpellsOption device o.deviceOption)
  args : Written "args" members (o.args = .empty) (SpellsArgs o.args)

theorem Fields.read_object (room : Nat) {device : DeviceOption → Doc → Prop} {o : OperatorSpec}
    {members : List (Except ReadError String × Doc)} (h : o.Fields device members)
    (hwhole : Doc.Whole (.object members .closed)) (hplain : ∀ a ∈ o.arguments, a.Plain)
    (hdevice : ∀ option d, device option d → d.Whole → d ≠ .null ∧ DeviceOption.reader (room + 3) d = .ok option) :
    reader (room + 4) (.object members .closed) = .ok o := by
  have htype := h.opType.fills_required (Reader.text (room + 3)) (a := o.opType) fun d _ hd => hd ▸ rfl
  obtain ⟨name, hname, hname'⟩ := h.name.fills_default (Reader.text (room + 3)) fun d _ hd => hd ▸ rfl
  obtain ⟨inputs, hinputs, hinputs'⟩ := h.inputs.fills_default (Reader.list Reader.text (room + 3))
    fun d _ hd => hd ▸ read_texts (room + 2) o.inputs
  obtain ⟨outputs, houtputs, houtputs'⟩ := h.outputs.fills_default (Reader.list Reader.text (room + 3))
    fun d _ hd => hd ▸ read_texts (room + 2) o.outputs
  obtain ⟨device, hread, hread'⟩ := h.deviceOption.fills_default (Reader.option DeviceOption.reader (room + 3))
    fun d hd hspells => Reader.option_ok hspells fun option hoption => hdevice option d hoption (hwhole.valuesOf d hd)
  obtain ⟨args, hargs, hargs'⟩ := h.args.fills_default (Reader.map Argument.reader (room + 3))
    fun d _ hd => read_args (room + 1) hd fun e he => hplain _ (List.mem_map_of_mem he)
  refine slots.reader_ok ⟨some o.opType, name, inputs, outputs, device, args⟩ hwhole h.keys ?_ ?_
  · simp only [slots, List.forall_mem_cons]
    exact ⟨htype, hname, hinputs, houtputs, hread, hargs, by simp⟩
  · simp only [record, requireField, hname', hinputs', houtputs', hread', hargs']
    rfl

theorem read_spelled (room : Nat) {o : OperatorSpec} {d : Doc} (h : o.SpelledBy d) (hwhole : d.Whole)
    (hplain : ∀ a ∈ o.arguments, a.Plain) : reader (room + 4) d = .ok o := by
  cases h with
  | object keys opType name inputs outputs deviceOption args =>
  exact Fields.read_object room ⟨keys, opType, name, inputs, outputs, deviceOption, args⟩ hwhole hplain
    fun _ _ hd hwhole => ⟨hd.not_null, DeviceOption.read_spelled (room + 1) hd hwhole⟩

theorem read_repeated {d : Doc} (h : Repeats d) (room : Nat) (o : OperatorSpec) : reader room d ≠ .ok o := by
  cases h with
  | field h => exact slots.reader_repeated h o
  | device hd h =>
    exact slots.reader_untaken (s := slots.slots[4]) (List.getElem_mem _) hd
      (fun inner => Reader.option_untaken h.not_null (DeviceOption.read_repeated h inner)) o

end OperatorSpec

/-! ## Nets -/

namespace NetSpec

/-- The trees of the description of a net. -/
inductive SpelledBy (s : NetSpec) : Doc → Prop
  | object {members : List (Except ReadError String × Doc)} (keys : ∀ m ∈ members, ∃ key, m.1 = .ok key)
    (name : Written "name" members False (· = toDoc (.text s.name)))
    (netType : Written "type" members (s.netType = none)
      (SpellsOption (fun name d => d = toDoc (.text name)) s.netType))
    (ops : Written "op" members (s.ops = []) fun d =>
      ∃ items, d = .list items .closed ∧ List.Forall₂ OperatorSpec.SpelledBy s.ops items)
    (deviceOption : Written "device_option" members (s.deviceOption = none)
      (SpellsOption DeviceOption.SpelledBy s.deviceOption))
    (externalInputs : Written "external_inputs" members (s.externalInputs = [])
      (· = toDoc (.list (s.externalInputs.map .text))))
    (externalOutputs : Written "external_outputs" members (s.externalOutputs = [])
      (· = toDoc (.list (s.externalOutputs.map .text)))) :
    SpelledBy s (.object members .closed)

def fieldNames : List String := ["name", "type", "op", "device_option", "external_inputs", "external_outputs"]

/-- Some field comes twice, of the net, of one of its operators or of a device. -/
inductive Repeats : Doc → Prop
  | field {members : List (Except ReadError String × Doc)} {ending : Ending} (h : RepeatsName fieldNames members) :
    Repeats (.object members ending)
  | device {members : List (Except ReadError String × Doc)} {ending : Ending} {d : Doc}
    (hd : d ∈ valuesOf "device_option" members) (h : DeviceOption.Repeats d) : Repeats (.object members ending)
  | operator {members : List (Except ReadError String × Doc)} {items : List Doc} {ending ending' : Ending} {d : Doc}
    (hitems : .list items ending' ∈ valuesOf "op" members) (hd : d ∈ items) (h : OperatorSpec.Repeats d) :
    Repeats (.object members ending)

def slots : record.Slots where
  slots := [⟨_, _, _, Draft.name, _⟩, ⟨_, _, _, Draft.netType, _⟩, ⟨_, _, _, Draft.ops, _⟩,
    ⟨_, _, _, Draft.deviceOption, _⟩, ⟨_, _, _, Draft.externalInputs, _⟩, ⟨_, _, _, Draft.externalOutputs, _⟩]
  fields := rfl
  apart := by simp [Slot.apart_iff]
  get_set := by simp
  ext draft draft' h := by
    cases draft
    cases draft'
    simpa using h
  blank := by simp [record]

/-- The members of the description of a net, whose operators and device are written in some way. -/
structure Fields (operator : OperatorSpec → Doc → Prop) (device : DeviceOption → Doc → Prop) (s : NetSpec)
    (members : List (Except ReadError String × Doc)) : Prop where
  keys : ∀ m ∈ members, ∃ key, m.1 = .ok key
  name : Written "name" members False (· = toDoc (.text s.name))
  netType : Written "type" members (s.netType = none)
    (SpellsOption (fun name d => d = toDoc (.text name)) s.netType)
  ops : Written "op" members (s.ops = []) fun d => ∃ items, d = .list items .closed ∧ List.Forall₂ operator s.ops items
  deviceOption : Written "device_option" members (s.deviceOption = none) (SpellsOption device s.deviceOption)
  externalInputs : Written "external_inputs" members (s.externalInputs = [])
    (· = toDoc (.list (s.externalInputs.map .text)))
  externalOutputs : Written "external_outputs" members (s.externalOutputs = [])
    (· = toDoc (.list (s.externalOutputs.map .text)))

theorem read_ops {room : Nat} {operator : OperatorSpec → Doc → Prop} {ops : List OperatorSpec} {items : List Doc}
    (h : List.Forall₂ operator ops items) (hwhole : ∀ d ∈ items, d.Whole)
    (hplain : ∀ o ∈ ops, ∀ a ∈ o.arguments, a.Plain)
    (hoperator : ∀ o d, operator o d → d.Whole → (∀ a ∈ o.arguments, a.Plain) →
      OperatorSpec.reader room d = .ok o) :
    List.Forall₂ (fun o d => OperatorSpec.reader room d = .ok o) ops items := by
  induction h with
  | nil => exact .nil
  | cons ho _ ih =>
    obtain ⟨hd, hwhole⟩ := List.forall_mem_cons.mp hwhole
    obtain ⟨ha, hplain⟩ := List.forall_mem_cons.mp hplain
    exact .cons (hoperator _ _ ho hd ha) (ih hwhole hplain)

theorem Fields.read_object (room : Nat) {operator : OperatorSpec → Doc → Prop} {device : DeviceOption → Doc → Prop}
    {s : NetSpec} {members : List (Except ReadError String × Doc)} (h : s.Fields operator device members)
    (hwhole : Doc.Whole (.object members .closed)) (hplain : ∀ a ∈ s.arguments, a.Plain)
    (hoperator : ∀ o d, operator o d → d.Whole → (∀ a ∈ o.arguments, a.Plain) →
      OperatorSpec.reader (room + 4) d = .ok o)
    (hdevice : ∀ option d, device option d → d.Whole → d ≠ .null ∧ DeviceOption.reader (room + 5) d = .ok option) :
    reader (room + 6) (.object members .closed) = .ok s := by
  have hname := h.name.fills_required (Reader.text (room + 5)) (a := s.name) fun d _ hd => hd ▸ rfl
  obtain ⟨netType, htype, htype'⟩ := h.netType.fills_default (Reader.option Reader.text (room + 5))
    fun d _ hd => Reader.option_ok hd fun name hname => hname ▸ ⟨by simp [toDoc], rfl⟩
  obtain ⟨ops, hops, hops'⟩ := h.ops.fills_default (Reader.list OperatorSpec.reader (room + 5)) fun d hd hspells => by
    obtain ⟨items, rfl, hitems⟩ := hspells
    exact Reader.list_forall₂ <| read_ops hitems (hwhole.valuesOf _ hd).items
      (fun o ho a ha => hplain a (List.mem_flatMap_of_mem ho ha)) hoperator
  obtain ⟨device, hread, hread'⟩ := h.deviceOption.fills_default (Reader.option DeviceOption.reader (room + 5))
    fun d hd hspells => Reader.option_ok hspells fun option hoption => hdevice option d hoption (hwhole.valuesOf d hd)
  obtain ⟨inputs, hinputs, hinputs'⟩ := h.externalInputs.fills_default (Reader.list Reader.text (room + 5))
    fun d _ hd => hd ▸ read_texts (room + 4) s.externalInputs
  obtain ⟨outputs, houtputs, houtputs'⟩ := h.externalOutputs.fills_default (Reader.list Reader.text (room + 5))
    fun d _ hd => hd ▸ read_texts (room + 4) s.externalOutputs
  refine slots.reader_ok ⟨some s.name, netType, ops, device, inputs, outputs⟩ hwhole h.keys ?_ ?_
  · simp only [slots, List.forall_mem_cons]
    exact ⟨hname, htype, hops, hread, hinputs, houtputs, by simp⟩
  · simp only [record, requireField, htype', hops', hread', hinputs', houtputs']
    rfl

theorem read_spelled (room : Nat) {s : NetSpec} {d : Doc} (h : s.SpelledBy d) (hwhole : d.Whole)
    (hplain : ∀ a ∈ s.arguments, a.Plain) : reader (room + 6) d = .ok s := by
  cases h with
  | object keys name netType ops deviceOption externalInputs externalOutputs =>
  exact Fields.read_object room ⟨keys, name, netType, ops, deviceOption, externalInputs, externalOutputs⟩ hwhole hplain
    (fun _ _ ho hwhole hplain => OperatorSpec.read_spelled room ho hwhole hplain)
    fun _ _ hd hwhole => ⟨hd.not_null, DeviceOption.read_spelled (room + 3) hd hwhole⟩

theorem read_repeated {d : Doc} (h : Repeats d) (room : Nat) (s : NetSpec) : reader room d ≠ .ok s := by
  cases h with
  | field h => exact slots.reader_repeated h s
  | device hd h =>
    exact slots.reader_untaken (s := slots.slots[3]) (List.getElem_mem _) hd
      (fun inner => Reader.option_untaken h.not_null (DeviceOption.read_repeated h inner)) s
  | operator hitems hd h =>
    exact slots.reader_untaken (s := slots.slots[2]) (List.getElem_mem _) hitems
      (fun _ => Reader.list_untaken hd fun inner => OperatorSpec.read_repeated h inner) s

/-- **The many texts of one description decode alike**, if all numbers are finite, their texts read back and
no argument is a list of no numbers: whatever the order of the fields and arguments, whatever is left out
where it is the default, whatever other members and blanks there are. A text where a field comes twice, in
the net, an operator or a device, does not decode. -/
theorem decode_spelled (s : NetSpec) (hback : ∀ a ∈ s.arguments, ∀ x ∈ a.singles, x.isFinite = true → ReadsBack x)
    (hfinite : ∀ a ∈ s.arguments, ∀ x ∈ a.singles, x.isFinite = true) (hempty : ∀ a ∈ s.arguments, a ≠ .floats [])
    {d : Doc} {text : String} (htext : Spelled d text.toList) :
    (s.SpelledBy d → decode text = .ok s) ∧ (Repeats d → ∃ e, decode text = .error e) := by
  rw [decode, htext.decode]
  constructor
  · intro hs
    refine read_spelled 121 hs htext.whole fun a ha => ⟨fun x hx => ?_, hempty a ha⟩
    exact ⟨hfinite a ha x hx, hback a ha x hx (hfinite a ha x hx)⟩
  · intro hrepeats
    cases hread : reader 127 d with
    | error e => exact ⟨e, rfl⟩
    | ok s' => exact absurd hread (read_repeated hrepeats 127 s')

def scaled : NetSpec where
  name := "scaled"
  ops := [{ opType := "Scale", args := .ofList [("at", .int 1), ("by", .float 0.5)] }]

/-- The net with its operator in front, the arguments the other way round, and a member of no field. -/
def turned : Json := .object
  [("op", .list [.object [("args", .object [("by", .ofSingle 0.5), ("at", .ofInt 1)]), ("why", .list [.list []]),
      ("type", .text "Scale")]]),
    ("name", .text "scaled")]

def renamed : Json := .object [("name", .text "scaled"), ("name", .text "turned")]

theorem spelled_turned : Spelled (toDoc turned) turned.compact.toList := by
  have hargs : (Json.object [("by", .ofSingle 0.5), ("at", .ofInt 1)]).Sound :=
    .object (by simpa using ⟨sound_ofSingle 0.5, .number (Numeric.sound_ofInt 1)⟩)
  have hop : (Json.object [("args", .object [("by", .ofSingle 0.5), ("at", .ofInt 1)]), ("why", .list [.list []]),
      ("type", .text "Scale")]).Sound :=
    .object (by simpa using ⟨hargs, .list (by simpa using .list (by simp)), .text _⟩)
  have hturned : turned.Sound := .object (by simpa using ⟨.list (by simpa using hop), .text _⟩)
  exact hturned.spelled

theorem spelledBy_turned : scaled.SpelledBy (toDoc turned) := by
  have hentries : [("by", Argument.float 0.5), ("at", .int 1)].Perm
      (NameMap.ofList [("at", .int 1), ("by", .float 0.5)]).entries := .swap _ _ _
  refine .object ?_ (.inr ⟨_, rfl, rfl⟩) (.inl ⟨rfl, rfl⟩) (.inr ⟨_, ⟨_, rfl, .cons ?_ .nil⟩, rfl⟩) (.inl ⟨rfl, rfl⟩)
    (.inl ⟨rfl, rfl⟩) (.inl ⟨rfl, rfl⟩)
  · simp [memberDocs]
  · exact .object (by simp [memberDocs]) (.inr ⟨_, rfl, rfl⟩) (.inl ⟨rfl, rfl⟩) (.inl ⟨rfl, rfl⟩) (.inl ⟨rfl, rfl⟩)
      (.inl ⟨rfl, rfl⟩) (.inr ⟨_, .object hentries, rfl⟩)

theorem decode_spelled_turned :
    decode turned.compact = .ok scaled ∧ ∃ e, decode renamed.compact = .error e := by
  have hback : ∀ a ∈ scaled.arguments, ∀ x ∈ a.singles, x.isFinite = true → ReadsBack x := by
    intro a ha x hx _
    have hsingles : scaled.arguments.flatMap Argument.singles = [0.5] := rfl
    have hmem : x ∈ [(0.5 : Float32)] := hsingles ▸ List.mem_flatMap_of_mem ha hx
    rw [List.mem_singleton.mp hmem]
    rfl
  have hfinite : ∀ a ∈ scaled.arguments, ∀ x ∈ a.singles, x.isFinite = true := isFinite_iff.mp rfl
  have hempty : ∀ a ∈ scaled.arguments, a ≠ .floats [] := by
    have harguments : scaled.arguments = [.int 1, .float 0.5] := rfl
    simp [harguments]
  have hrenamed : renamed.Sound := .object (by simpa using ⟨.text _, .text _⟩)
  refine ⟨(decode_spelled scaled hback hfinite hempty spelled_turned).1 spelledBy_turned,
    (decode_spelled scaled hback hfinite hempty (d := toDoc renamed) ?_).2 (.field ⟨"name", .head _, ?_⟩)⟩
  · rw [compact, String.toList_ofList]
    exact hrenamed.spelled_compact
  · rfl

end NetSpec

end Dataflow
