/-
What the engine asks of an operator. Operators share a world: a workspace of
tensors, or whatever else their kind reads and writes. A factory makes them
from their descriptions.
-/
import Dataflow.Failure
import Dataflow.Trace.Event

namespace Dataflow

/-- An operator and its world after a run, and why the run failed if it did. -/
structure Ran (Op World : Type) where
  op : Op
  world : World
  failure : Option Failure

/-- Operators of type `Op`, which share a world. -/
class Operator (Op : Type) (World : outParam Type) where
  /-- Runs once. A failed run may still have changed the operator and the world. -/
  run : Op → World → Ran Op World
  reset : Op → World → World
  /-- The shapes of the inputs as they are now, none when one of them is unknown. -/
  inputShapes : Op → World → List Shape × World

/-- What a factory makes of a description, its state afterwards, and what it logs. -/
structure Made (Op σ : Type) where
  outcome : Except Failure Op
  state : σ
  events : List Event := []

/-- Makes operators from their descriptions and their positions in the net. -/
abbrev Factory (Op σ : Type) := OperatorSpec → Nat → σ → Made Op σ

end Dataflow
