/-
The description of a net: its operators in the order in which they run, the
device they run on by default, and the tensors it exchanges with its
surroundings.
-/
import Dataflow.Spec.Operator

namespace Dataflow

open Json

def simpleNetType : String := "simple"

structure NetSpec where
  name : String
  netType : Option String := none
  ops : List OperatorSpec := []
  deviceOption : Option DeviceOption := none
  externalInputs : List String := []
  externalOutputs : List String := []
  deriving BEq

namespace NetSpec

/-- The strategy that runs the net: the simple one unless another is named. -/
def strategy (net : NetSpec) : String := net.netType.getD simpleNetType

def addOp (net : NetSpec) (op : OperatorSpec) : NetSpec := { net with ops := net.ops ++ [op] }

structure Draft where
  name : Option String := none
  netType : Option (Option String) := none
  ops : Option (List OperatorSpec) := none
  deviceOption : Option (Option DeviceOption) := none
  externalInputs : Option (List String) := none
  externalOutputs : Option (List String) := none

def record : Record Draft NetSpec where
  name := "NetSpec"
  fields := [
    .slot "name" true Reader.text (·.name) (fun d v => { d with name := some v }),
    .slot "type" false (Reader.option Reader.text) (·.netType)
      (fun d v => { d with netType := some v }),
    .slot "op" false (Reader.list OperatorSpec.reader) (·.ops)
      (fun d v => { d with ops := some v }),
    .slot "device_option" false (Reader.option DeviceOption.reader) (·.deviceOption)
      (fun d v => { d with deviceOption := some v }),
    .slot "external_inputs" false (Reader.list Reader.text) (·.externalInputs)
      (fun d v => { d with externalInputs := some v }),
    .slot "external_outputs" false (Reader.list Reader.text) (·.externalOutputs)
      (fun d v => { d with externalOutputs := some v })]
  blank := {}
  build d := do
    return {
      name := ← requireField "name" d.name
      netType := d.netType.getD none
      ops := d.ops.getD []
      deviceOption := d.deviceOption.getD none
      externalInputs := d.externalInputs.getD []
      externalOutputs := d.externalOutputs.getD [] }

def reader : Reader NetSpec := record.reader

def toJson (net : NetSpec) : Json :=
  .object <|
    [("name", .text net.name)] ++
    (net.netType.map fun t => ("type", Json.text t)).toList ++
    [("op", .list (net.ops.map OperatorSpec.toJson))] ++
    (net.deviceOption.map fun d => ("device_option", d.toJson)).toList ++
    [("external_inputs", .list (net.externalInputs.map .text)),
      ("external_outputs", .list (net.externalOutputs.map .text))]

def decode (text : String) : Except ReadError NetSpec := reader.decode text

end NetSpec

end Dataflow
