/-
The compact JSON texts of descriptions of nets, and what they decode to
(`NetSpec.decode_toJson`). Members that are left out where there is nothing to
say come back as nothing, and the other members as what was written.
-/
import Dataflow.Proofs.Spec.Parts
import Dataflow.Spec.Net

namespace Dataflow

open Json

/-! ## Operators and nets -/

theorem read_texts (room : Nat) (names : List String) :
    Reader.list Reader.text (room + 1) (toDoc (.list (names.map .text))) = .ok names :=
  Reader.list_ok fun _ _ => rfl

namespace OperatorSpec

def arguments (o : OperatorSpec) : List Argument := o.args.entries.map (·.2)

def isFinite (o : OperatorSpec) : Bool := o.args.entries.all (·.2.isFinite)

/-- What the description is read back as, if its numbers are finite. -/
def settled (o : OperatorSpec) : OperatorSpec := { o with args := o.args.mapValues Argument.settled }

def plainDraft (o : OperatorSpec) : Draft :=
  ⟨some o.opType, some o.name, some o.inputs, some o.outputs, o.deviceOption.map some, none⟩

theorem build_plainDraft (o : OperatorSpec) (args : Option (NameMap Argument)) :
    record.build { o.plainDraft with args } = .ok { o with args := args.getD .empty } := by
  obtain ⟨opType, name, inputs, outputs, device, _⟩ := o
  cases device <;> rfl

theorem readMembers_plain (room : Nat) (o : OperatorSpec) (rest : List (String × Json)) :
    Record.readMembers record.fields (room + 1) (memberDocs (
        [("type", .text o.opType), ("name", .text o.name), ("inputs", .list (o.inputs.map .text)),
          ("outputs", .list (o.outputs.map .text))] ++
        (o.deviceOption.map fun d => ("device_option", d.toJson)).toList ++ rest)) record.blank =
      Record.readMembers record.fields (room + 1) (memberDocs rest) o.plainDraft := by
  rw [List.append_assoc, memberDocs_append, memberDocs_append]
  refine (Record.readMembers_ok rfl rfl rfl _).trans ?_
  refine (Record.readMembers_ok rfl rfl rfl _).trans ?_
  refine (Record.readMembers_ok rfl rfl (read_texts room o.inputs) _).trans ?_
  refine (Record.readMembers_ok rfl rfl (read_texts room o.outputs) _).trans ?_
  refine (Record.readMembers_optional rfl rfl (fun d => ⟨d.read_toJson room, d.toJson_not_null⟩) _).trans ?_
  unfold plainDraft
  cases o.deviceOption <;> rfl

/-- **The description of an operator reads back, if its numbers are finite.** -/
theorem read_toJson (room : Nat) {o : OperatorSpec}
    (h : ∀ a ∈ o.arguments, ∀ x ∈ a.singles, x.isFinite = true → ReadsBack x) :
    reader (room + 3) (toDoc o.toJson) = given Argument.noKind o.isFinite o.settled := by
  have hargs : Reader.map Argument.reader (room + 2)
      (toDoc (.object (o.args.toList.map fun e => (e.1, e.2.toJson)))) =
        given Argument.noKind o.isFinite (o.args.mapValues Argument.settled) :=
    Reader.map_given fun e he => Argument.read_toJson room (h e.2 (List.mem_map_of_mem he))
  rw [reader, toJson, record.reader_object, readMembers_plain]
  cases hempty : o.args.isEmpty with
  | true =>
    -- Arguments are written only where there are some.
    have hnone : o.args = .empty := NameMap.ext_entries (List.isEmpty_iff.mp hempty)
    have hfinite : o.isFinite = true := by rw [isFinite, hnone]; rfl
    have hsettled : o.settled = { o with args := .empty } := by rw [settled, hnone]; rfl
    rw [hfinite, given_true, hsettled]
    exact o.build_plainDraft none
  | false =>
    simp only [Bool.false_eq_true, if_false]
    exact record.reader_given rfl rfl hargs (o.build_plainDraft (some (o.args.mapValues Argument.settled)))

end OperatorSpec

namespace NetSpec

def arguments (s : NetSpec) : List Argument := s.ops.flatMap OperatorSpec.arguments

def isFinite (s : NetSpec) : Bool := s.ops.all OperatorSpec.isFinite

def settled (s : NetSpec) : NetSpec := { s with ops := s.ops.map OperatorSpec.settled }

theorem readMembers_before (room : Nat) (s : NetSpec) (rest : List (Except ReadError String × Doc)) :
    Record.readMembers record.fields (room + 1) (memberDocs [("name", .text s.name)] ++
        (memberDocs (s.netType.map fun t => ("type", Json.text t)).toList ++ rest)) record.blank =
      Record.readMembers record.fields (room + 1) rest ⟨some s.name, s.netType.map some, none, none, none, none⟩ := by
  refine (Record.readMembers_ok rfl rfl rfl _).trans ?_
  refine (Record.readMembers_optional rfl rfl (fun _ => ⟨rfl, by simp [toDoc]⟩) _).trans ?_
  cases s.netType <;> rfl

theorem readMembers_behind (room : Nat) (s : NetSpec) (draft : Draft) (hdevice : draft.deviceOption = none)
    (hinputs : draft.externalInputs = none) (houtputs : draft.externalOutputs = none) :
    Record.readMembers record.fields (room + 2)
        (memberDocs (s.deviceOption.map fun d => ("device_option", d.toJson)).toList ++
          memberDocs [("external_inputs", .list (s.externalInputs.map .text)),
            ("external_outputs", .list (s.externalOutputs.map .text))]) draft =
      .ok { draft with deviceOption := s.deviceOption.map some, externalInputs := some s.externalInputs,
                       externalOutputs := some s.externalOutputs } := by
  obtain ⟨name, netType, ops, _, _, _⟩ := draft
  subst hdevice hinputs houtputs
  refine (Record.readMembers_optional rfl rfl (fun d => ⟨d.read_toJson (room + 1), d.toJson_not_null⟩) _).trans ?_
  refine (Record.readMembers_ok rfl (by cases s.deviceOption <;> rfl) (read_texts (room + 1) _) _).trans ?_
  refine (Record.readMembers_ok rfl (by cases s.deviceOption <;> rfl) (read_texts (room + 1) _) _).trans ?_
  cases s.deviceOption <;> rfl

/-- **The description of a net reads back, if its numbers are finite.** -/
theorem read_toJson (room : Nat) {s : NetSpec}
    (h : ∀ a ∈ s.arguments, ∀ x ∈ a.singles, x.isFinite = true → ReadsBack x) :
    reader (room + 5) (toDoc s.toJson) = given Argument.noKind s.isFinite s.settled := by
  have hops : Reader.list OperatorSpec.reader (room + 4) (toDoc (.list (s.ops.map OperatorSpec.toJson))) =
      given Argument.noKind (s.ops.all OperatorSpec.isFinite) (s.ops.map OperatorSpec.settled) :=
    Reader.list_given fun o ho => o.read_toJson room fun a ha => h a (List.mem_flatMap_of_mem ho ha)
  rw [reader, toJson, record.reader_object]
  simp only [List.append_assoc, memberDocs_append]
  rw [readMembers_before]
  refine record.reader_given rfl rfl hops ?_
  refine (congrArg (Except.bind · record.build) (s.readMembers_behind (room + 2) _ rfl rfl rfl)).trans ?_
  obtain ⟨name, netType, ops, device, inputs, outputs⟩ := s
  cases netType <;> cases device <;> rfl

end NetSpec

theorem OperatorSpec.sound_toJson (o : OperatorSpec) : o.toJson.Sound := by
  refine .object ?_
  simp only [List.forall_mem_append, List.forall_mem_cons]
  refine ⟨⟨⟨.text _, .text _, sound_texts _, sound_texts _, by simp⟩,
    forall_mem_toList_map fun d => d.sound_toJson⟩, ?_⟩
  split
  · simp
  · rw [List.forall_mem_singleton]
    exact .object (List.forall_mem_map.mpr fun e _ => e.2.sound_toJson)

theorem NetSpec.sound_toJson (s : NetSpec) : s.toJson.Sound := by
  refine .object ?_
  simp only [List.forall_mem_append, List.forall_mem_cons]
  exact ⟨⟨⟨⟨⟨.text _, by simp⟩, forall_mem_toList_map fun t => .text t⟩,
    .list (List.forall_mem_map.mpr fun o _ => o.sound_toJson), by simp⟩, forall_mem_toList_map fun d => d.sound_toJson⟩,
    sound_texts _, sound_texts _, by simp⟩

/-! ## What survives -/

theorem OperatorSpec.settled_eq_self {o : OperatorSpec} : o.settled = o ↔ ∀ a ∈ o.arguments, a ≠ .floats [] := by
  have hargs : o.settled = o ↔ o.args.mapValues Argument.settled = o.args :=
    ⟨congrArg OperatorSpec.args, fun h => by rw [settled, h]⟩
  rw [hargs, NameMap.mapValues_eq_self]
  simp only [arguments, List.forall_mem_map, Argument.settled_eq_self]

theorem OperatorSpec.isFinite_iff {o : OperatorSpec} :
    o.isFinite = true ↔ ∀ a ∈ o.arguments, ∀ x ∈ a.singles, x.isFinite = true := by
  simp only [isFinite, Argument.isFinite, arguments, List.all_eq_true, List.forall_mem_map]

namespace NetSpec

theorem settled_eq_self {s : NetSpec} : s.settled = s ↔ ∀ a ∈ s.arguments, a ≠ .floats [] := by
  have hops : s.settled = s ↔ s.ops.map OperatorSpec.settled = s.ops.map id :=
    ⟨fun h => (congrArg NetSpec.ops h).trans (List.map_id _).symm, fun h => by rw [settled, h, List.map_id]⟩
  rw [hops, List.map_inj_left]
  simp only [id_eq, OperatorSpec.settled_eq_self, arguments, List.forall_mem_flatMap]

theorem isFinite_iff {s : NetSpec} :
    s.isFinite = true ↔ ∀ a ∈ s.arguments, ∀ x ∈ a.singles, x.isFinite = true := by
  simp only [isFinite, List.all_eq_true, OperatorSpec.isFinite_iff, arguments, List.forall_mem_flatMap]

/-- **The compact JSON text of a description of a net, and what it decodes to**, when the texts of its
finite numbers read back. It decodes to the description itself exactly when all numbers of the
arguments are finite and no argument is a list of no numbers. A number that is not finite makes the
text fail to decode; else the lists of no numbers come back as lists of no integers, and nothing else
is changed. -/
theorem decode_toJson (s : NetSpec)
    (hback : ∀ a ∈ s.arguments, ∀ x ∈ a.singles, x.isFinite = true → ReadsBack x) :
    (decode s.toJson.compact = .ok s ↔
      (∀ a ∈ s.arguments, ∀ x ∈ a.singles, x.isFinite = true) ∧ ∀ a ∈ s.arguments, a ≠ .floats []) ∧
    ((∃ a ∈ s.arguments, ∃ x ∈ a.singles, x.isFinite = false) →
      decode s.toJson.compact = .error (.noVariant "Argument")) ∧
    ((∀ a ∈ s.arguments, ∀ x ∈ a.singles, x.isFinite = true) →
      decode s.toJson.compact =
        .ok { s with ops := s.ops.map fun o => { o with args := o.args.mapValues Argument.settled } }) := by
  have hdecoded : decode s.toJson.compact = given Argument.noKind s.isFinite s.settled := by
    rw [decode, s.sound_toJson.decode_compact]
    exact read_toJson 122 hback
  rw [hdecoded, ← isFinite_iff, ← settled_eq_self]
  refine ⟨?_, ?_, fun hfinite => by rw [hfinite]; rfl⟩
  · cases s.isFinite with
    | false => simp
    | true => simp
  · rintro ⟨a, ha, x, hx, hnot⟩
    have hfinite : s.isFinite = false := by
      rw [← Bool.not_eq_true, isFinite_iff]
      intro hall
      rw [hall a ha x hx] at hnot
      cases hnot
    rw [hfinite]
    rfl

/-- A net with a number, and with a list of none. -/
def halved : NetSpec where
  name := "halved"
  ops := [{ opType := "Scale", args := .ofList [("by", .float 0.5), ("skip", .floats [])] }]

theorem decode_toJson_halved :
    decode halved.toJson.compact = .ok
        { name := "halved", ops := [{ opType := "Scale", args := .ofList [("by", .float 0.5), ("skip", .ints [])] }] } ∧
      decode halved.toJson.compact ≠ .ok halved := by
  have hback : ∀ a ∈ halved.arguments, ∀ x ∈ a.singles, x.isFinite = true → ReadsBack x := by
    intro a ha x hx _
    have hsingles : halved.arguments.flatMap Argument.singles = [0.5] := rfl
    have hmem : x ∈ [(0.5 : Float32)] := hsingles ▸ List.mem_flatMap_of_mem ha hx
    rw [List.mem_singleton.mp hmem]
    rfl
  have hfinite : ∀ a ∈ halved.arguments, ∀ x ∈ a.singles, x.isFinite = true := isFinite_iff.mp rfl
  obtain ⟨hsame, -, hdecoded⟩ := decode_toJson halved hback
  exact ⟨hdecoded hfinite, fun h => (hsame.mp h).2 (.floats []) (.tail _ (.head _)) rfl⟩

end NetSpec

end Dataflow
