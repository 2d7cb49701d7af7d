/-
The descriptions that the operators of a net are made from. An operator without
a device of its own takes over the default of the net, as a changed copy of its
description. Every other operator is made from the very entry of the net.
-/
import Dataflow.Spec.Net

namespace Dataflow

/-- What an operator is made from. -/
inductive ResolvedSpec
  /-- an entry of the net, as it stands -/
  | entry (net : NetSpec) (index : Fin net.ops.length)
  /-- a copy with the default device of the net -/
  | copy (spec : OperatorSpec)

namespace ResolvedSpec

def spec : ResolvedSpec → OperatorSpec
  | .entry net index => net.ops[index]
  | .copy spec => spec

def isShared : ResolvedSpec → Bool
  | .entry .. => true
  | .copy _ => false

end ResolvedSpec

namespace NetSpec

/-- What the operator at a position is made from. -/
def resolve (net : NetSpec) (index : Fin net.ops.length) : ResolvedSpec :=
  match net.ops[index].deviceOption, net.deviceOption with
  | none, some device => .copy { net.ops[index] with deviceOption := some device }
  | _, _ => .entry net index

def resolvedOperators (net : NetSpec) : List ResolvedSpec := List.ofFn net.resolve

end NetSpec

end Dataflow
