/-
Why a tensor cannot be made or found, and why an operator cannot be made or
fails.
-/
import Dataflow.Tensor.Shape

namespace Dataflow

open Text

inductive Failure
  | elementCount (shape : Shape) (given : Nat)
  | tooLarge
  | noTensor (name : String)
  | weightRank (weight : Shape)
  | weightSize (weight : Shape) (given : Nat)
  | inputSize (input weight : Shape)
  | biasSize (expected : Nat) (bias : Shape)
  | unequalSizes (left right : Shape)
  | inputCount (opType : String) (expected got : Nat)
  | outputCount (opType : String) (expected got : Nat)
  | unknownOperator (opType : String)
  | rejected (name : String)
  | scripted (name : String)
  | refused (reason : String)
  deriving DecidableEq

namespace Failure

def message : Failure → String
  | elementCount shape given =>
    s!"shape {shape.display} holds {shape.numel} elements but {given} were given"
  | tooLarge => "capacity overflow"
  | noTensor name => s!"tensor {quoted name} not found in workspace"
  | weightRank weight => s!"FC expects a 2D weight, got {weight.display}"
  | weightSize weight given => s!"FC weight {weight.display} holds {given} elements"
  | inputSize input weight =>
    s!"FC input {input.display} does not match weight {weight.display}"
  | biasSize expected bias => s!"FC expects a bias of {expected} elements, got {bias.display}"
  | unequalSizes left right =>
    s!"Add expects inputs to have the same shape: {left.display} vs {right.display}"
  | inputCount opType expected got => s!"{opType} expects {expected} inputs, got {got}"
  | outputCount opType expected got => s!"{opType} expects {expected} outputs, got {got}"
  | unknownOperator opType => s!"Unknown operator type {quoted opType}"
  | rejected name => s!"rejected operator {name}"
  | scripted name => s!"scripted failure of {name}"
  | refused reason => reason

end Failure

end Dataflow
