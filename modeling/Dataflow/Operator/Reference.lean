/-
The reference operators, which compute on a workspace: a fully connected layer,
a rectifier, a sum and a copy. An operator reads all its inputs before it
writes its output, and a failed one writes nothing.
-/
import Dataflow.Operator.Basic
import Dataflow.Schema
import Dataflow.Tensor.Kernel
import Dataflow.Tensor.Workspace

namespace Dataflow.Reference

def fcType : String := "FC"

def reluType : String := "Relu"

def addType : String := "Add"

def copyType : String := "Copy"

/-- A reference operator, with the names of the tensors it reads and writes. -/
inductive RefOperator
  | fullyConnected (input weight bias output : String)
  | relu (input output : String)
  | add (left right output : String)
  | copy (input output : String)
  deriving DecidableEq

namespace RefOperator

def reads : RefOperator → List String
  | fullyConnected input weight bias _ => [input, weight, bias]
  | relu input _ => [input]
  | add left right _ => [left, right]
  | copy input _ => [input]

def output : RefOperator → String
  | fullyConnected _ _ _ output => output
  | relu _ output => output
  | add _ _ output => output
  | copy _ output => output

def compute (ws : Workspace) : RefOperator → Except Failure Tensor
  | fullyConnected input weight bias _ => do
    Kernel.fullyConnected (← ws.fetch input) (← ws.fetch weight) (← ws.fetch bias)
  | relu input _ => do return Kernel.relu (← ws.fetch input)
  | add left right _ => do Kernel.add (← ws.fetch left) (← ws.fetch right)
  | copy input _ => ws.fetch input

def run (op : RefOperator) (ws : Workspace) : Ran RefOperator Workspace :=
  match op.compute ws with
  | .ok t => ⟨op, ws.feed op.output t, none⟩
  | .error e => ⟨op, ws, some e⟩

end RefOperator

instance : Operator RefOperator Workspace where
  run := RefOperator.run
  reset _ ws := ws
  inputShapes op ws := ((ws.shapes? op.reads).getD [], ws)

/-- Which count of names is wrong, for an operator of so many inputs and one output. -/
def wrongArity (spec : OperatorSpec) (inputs : Nat) : Failure :=
  if spec.inputs.length ≠ inputs then .inputCount spec.opType inputs spec.inputs.length
  else .outputCount spec.opType 1 spec.outputs.length

/-- The operator of a description. -/
def ofSpec (spec : OperatorSpec) : Except Failure RefOperator :=
  if spec.opType = fcType then
    match spec.inputs, spec.outputs with
    | [x, w, b], [y] => .ok (.fullyConnected x w b y)
    | _, _ => .error (wrongArity spec 3)
  else if spec.opType = reluType then
    match spec.inputs, spec.outputs with
    | [x], [y] => .ok (.relu x y)
    | _, _ => .error (wrongArity spec 1)
  else if spec.opType = addType then
    match spec.inputs, spec.outputs with
    | [l, r], [y] => .ok (.add l r y)
    | _, _ => .error (wrongArity spec 2)
  else if spec.opType = copyType then
    match spec.inputs, spec.outputs with
    | [x], [y] => .ok (.copy x y)
    | _, _ => .error (wrongArity spec 1)
  else .error (.unknownOperator spec.opType)

/-- The warning for an operator that asks for another device than the processor. -/
def deviceWarning (spec : OperatorSpec) (position : Nat) : List Event :=
  match spec.deviceOption with
  | none => []
  | some device =>
    if device.deviceType = .cpu then []
    else [.logged .warn LogTarget.operators
      (s!"operator #{position} ({spec.displayName}) requests device {device.deviceType.name}, " ++
        "running on cpu")]

def factory {σ : Type} : Factory RefOperator σ := fun spec position state =>
  { outcome := ofSpec spec, state, events := deviceWarning spec position }

/-- The schemas of the reference operators. A copy is not costed. -/
def schemas : SchemaRegistry :=
  .ofSchemas [⟨fcType, some Cost.fullyConnected⟩, ⟨reluType, some Cost.pointwise⟩,
    ⟨addType, some Cost.pointwise⟩, ⟨copyType, none⟩]

end Dataflow.Reference
