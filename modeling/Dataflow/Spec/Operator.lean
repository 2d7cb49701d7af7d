/-
The description of one operator: its type, the tensors it reads and writes, and
what else it is given.
-/
import Dataflow.Spec.Argument
import Dataflow.Spec.Device

namespace Dataflow

open Json

/-- The description of an operator. The name may be empty. -/
structure OperatorSpec where
  opType : String
  name : String := ""
  inputs : List String := []
  outputs : List String := []
  deviceOption : Option DeviceOption := none
  args : NameMap Argument := .empty
  deriving BEq

namespace OperatorSpec

/-- The name used in reports: the operator's own, else its first output. -/
def displayName (o : OperatorSpec) : String :=
  if o.name = "" then o.outputs.headD "NO_OUTPUT" else o.name

def argInt (o : OperatorSpec) (key : String) : Option Int64 :=
  match o.args.get? key with
  | some (.int n) => some n
  | _ => none

def argFloat (o : OperatorSpec) (key : String) : Option Float32 :=
  match o.args.get? key with
  | some (.float x) => some x
  | some (.int n) => some (Numeric.single n.toInt)
  | _ => none

structure Draft where
  opType : Option String := none
  name : Option String := none
  inputs : Option (List String) := none
  outputs : Option (List String) := none
  deviceOption : Option (Option DeviceOption) := none
  args : Option (NameMap Argument) := none

def record : Record Draft OperatorSpec where
  name := "OperatorSpec"
  fields := [
    .slot "type" true Reader.text (·.opType) (fun d v => { d with opType := some v }),
    .slot "name" false Reader.text (·.name) (fun d v => { d with name := some v }),
    .slot "inputs" false (Reader.list Reader.text) (·.inputs)
      (fun d v => { d with inputs := some v }),
    .slot "outputs" false (Reader.list Reader.text) (·.outputs)
      (fun d v => { d with outputs := some v }),
    .slot "device_option" false (Reader.option DeviceOption.reader) (·.deviceOption)
      (fun d v => { d with deviceOption := some v }),
    .slot "args" false (Reader.map Argument.reader) (·.args)
      (fun d v => { d with args := some v })]
  blank := {}
  build d := do
    return {
      opType := ← requireField "type" d.opType
      name := d.name.getD ""
      inputs := d.inputs.getD []
      outputs := d.outputs.getD []
      deviceOption := d.deviceOption.getD none
      args := d.args.getD .empty }

def reader : Reader OperatorSpec := record.reader

def toJson (o : OperatorSpec) : Json :=
  .object <|
    [("type", .text o.opType), ("name", .text o.name), ("inputs", .list (o.inputs.map .text)),
      ("outputs", .list (o.outputs.map .text))] ++
    (o.deviceOption.map fun d => ("device_option", d.toJson)).toList ++
    (if o.args.isEmpty then []
      else [("args", .object (o.args.toList.map fun (key, a) => (key, a.toJson)))])

/-- The full description for a reader, as it is shown when the operator fails. -/
def debugString (o : OperatorSpec) : String := o.toJson.pretty

end OperatorSpec

end Dataflow
