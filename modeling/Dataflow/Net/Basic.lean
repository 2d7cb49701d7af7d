/-
Nets: operators in the order in which they run, the observers of whole runs,
and where ranges and trace events go.
-/
import Dataflow.Config
import Dataflow.Net.Error
import Dataflow.Operator.Basic
import Dataflow.Spec.Resolution
import Dataflow.Trace.Observers

namespace Dataflow

/-- An operator of a net and what it was made from. -/
structure NetOperator (Op : Type) where
  origin : ResolvedSpec
  op : Op

def NetOperator.spec {Op : Type} (o : NetOperator Op) : OperatorSpec := o.origin.spec

structure Net (Op : Type) where
  name : String
  operators : List (NetOperator Op)
  observers : Observers := {}
  config : ExecutionConfig := {}
  profiler : Profiler := .silent
  traceSink : TraceSink := .silent

namespace Net

variable {Op σ : Type}

def attach (net : Net Op) (label : String) : Net Op :=
  { net with observers := net.observers.attach label }

/-- Takes all observers off the net, and gives them. -/
def detachAll (net : Net Op) : Observers × Net Op :=
  let (taken, remaining) := net.observers.detachAll
  (taken, { net with observers := remaining })

def summary (net : Net Op) : String :=
  let operators := Text.quotedList (net.operators.map fun o => o.spec.displayName)
  let config := s!"ExecutionConfig \x7b profiler_ranges: {net.config.profilerRanges} \x7d"
  s!"SimpleNet \x7b name: {Text.quoted net.name}, operators: {operators}, " ++
    s!"observers: {net.observers.summary}, config: {config}, .. \x7d"

end Net

/-- What comes of building a net: the net or an error, the state of the factory, and what happened
on the way. -/
structure Built (Op σ : Type) where
  outcome : Except NetError (Net Op)
  state : σ
  events : List Event

/-- The operators of some descriptions, from a position on. The first one that cannot be made ends
the building. -/
def makeOperators {Op σ : Type} (factory : Factory Op σ) :
    Nat → List ResolvedSpec → σ → Except NetError (List (NetOperator Op)) × σ × List Event
  | _, [], state => (.ok [], state, [])
  | position, origin :: rest, state =>
    let spec := origin.spec
    let announced := Event.logged .debug LogTarget.net
      s!"Creating operator {spec.name}: {spec.opType}"
    let made := factory spec position state
    match made.outcome with
    | .error cause =>
      (.error (.operatorCreation position spec.opType cause), made.state, announced :: made.events)
    | .ok op =>
      let (others, state, events) := makeOperators factory (position + 1) rest made.state
      (others.map fun ops => ⟨origin, op⟩ :: ops, state, announced :: made.events ++ events)

/-- Builds a net: all operators of its description, in order. -/
def Net.build {Op σ : Type} (spec : NetSpec) (factory : Factory Op σ) (state : σ) : Built Op σ :=
  let (operators, state, events) := makeOperators factory 0 spec.resolvedOperators state
  { outcome := operators.map fun operators => { name := spec.name, operators }
    state
    events := .logged .debug LogTarget.net s!"Constructing SimpleNet {spec.name}" :: events }

end Dataflow
