/-
The observers of the whole runs of a net. They are told apart by their labels
only, and hear of everything in the order in which they were attached; a label
may stand more than once.
-/
import Dataflow.Trace.Event

namespace Dataflow

structure Observers where
  labels : List String := []
  deriving DecidableEq

namespace Observers

def attach (o : Observers) (label : String) : Observers := ⟨o.labels ++ [label]⟩

/-- Takes all observers off: those that were attached, and those that remain. -/
def detachAll (o : Observers) : Observers × Observers := (o, {})

def size (o : Observers) : Nat := o.labels.length

def isEmpty (o : Observers) : Bool := o.labels.isEmpty

def started (o : Observers) : List Event := o.labels.map .observerStart

/-- All observers hear that a run has succeeded. -/
def stopped (o : Observers) : List Event := o.labels.map .observerStop

def summary (o : Observers) : String := s!"ObserverList \x7b len: {o.size} \x7d"

end Observers

end Dataflow
