/-
Scripted operators, which compute nothing: they write their name into a journal
and fail when a script tells them to. They serve to try out the engine.
-/
import Dataflow.Operator.Basic
import Dataflow.Schema
import Dataflow.Spec.Net

namespace Dataflow.Scripted

/-- What scripted operators leave behind: the names of those that ran, in order, and how often
they were run, reset and asked for their shapes. -/
structure Journal where
  entries : List String := []
  runs : Nat := 0
  resets : Nat := 0
  shapeQueries : Nat := 0
  deriving DecidableEq

structure Actor where
  name : String
  /-- the number of successes after which it fails, none when it never does -/
  limit : Option Nat := none
  successes : Nat := 0
  shapes : List Shape := []
  deriving DecidableEq

namespace Actor

/-- Whether the next run fails. -/
def isSpent (a : Actor) : Bool :=
  match a.limit with
  | some limit => limit ≤ a.successes
  | none => false

def run (a : Actor) (j : Journal) : Ran Actor Journal :=
  let j := { j with entries := j.entries ++ [a.name], runs := j.runs + 1 }
  if a.isSpent then ⟨a, j, some (.scripted a.name)⟩
  else ⟨{ a with successes := a.successes + 1 }, j, none⟩

end Actor

instance : Operator Actor Journal where
  run := Actor.run
  reset _ j := { j with resets := j.resets + 1 }
  inputShapes a j := (a.shapes, { j with shapeQueries := j.shapeQueries + 1 })

/-- Which operators are not made, and after how many successes others fail, by name. -/
structure Script where
  reject : List String := []
  limits : NameMap Nat := .empty

/-- The operators made so far: their names and the devices in their descriptions. -/
structure Cast where
  created : List String := []
  devices : List (Option DeviceOption) := []

/-- The shape that an operator reports for each of its inputs: the argument `shape` when it is a
list of integers. -/
def reportedShape (spec : OperatorSpec) : Shape :=
  match spec.args.get? "shape" with
  | some (.ints dims) => ⟨dims.map Int64.toUInt64⟩
  | _ => ⟨[1]⟩

/-- For how many of its inputs an operator reports a shape: at most the argument `known_inputs`. -/
def knownInputs (spec : OperatorSpec) : Nat :=
  match spec.argInt "known_inputs" with
  | some n => min n.toUInt64.toNat spec.inputs.length
  | none => spec.inputs.length

def actor (script : Script) (spec : OperatorSpec) : Actor where
  name := spec.name
  limit := script.limits.get? spec.name
  shapes := List.replicate (knownInputs spec) (reportedShape spec)

def factory (script : Script) : Factory Actor Cast := fun spec _ cast =>
  if script.reject.contains spec.name then
    { outcome := .error (.rejected spec.name), state := cast }
  else
    { outcome := .ok (actor script spec)
      state :=
        { created := cast.created ++ [spec.name], devices := cast.devices ++ [spec.deviceOption] } }

/-- A net of operators with the given names and types; each reads `x` and writes its own name with
`_out` behind it. -/
def net (name : String) (ops : List (String × String)) : NetSpec where
  name := name
  ops := ops.map fun (opName, opType) =>
    { opType, name := opName, inputs := ["x"], outputs := [opName ++ "_out"] }

/-- One operation for each element of the inputs, four bytes moved for each, and the parameters
that the argument `params` says. -/
def cost : CostFunction := fun spec shapes =>
  let numel := shapes.foldl (fun total s => total + s.numel) 0
  { flops := .ofNat numel
    bytesMoved := .ofNat (4 * numel)
    paramsBytes := ((spec.argInt "params").getD 0).toUInt64 }

def schemas (opTypes : List String) : SchemaRegistry :=
  .ofSchemas (opTypes.map fun opType => ⟨opType, some cost⟩)

end Dataflow.Scripted
