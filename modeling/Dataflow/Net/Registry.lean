/-
Registries of net strategies. A net is built by the constructor registered
under its strategy's name.
-/
import Dataflow.Net.Run
import Dataflow.NameMap

namespace Dataflow

variable {Op σ : Type}

abbrev NetConstructor (Op σ : Type) :=
  NetSpec → Factory Op σ → σ → ExecutionConfig → Built Op σ

abbrev NetRegistry (Op σ : Type) := NameMap (NetConstructor Op σ)

/-- Builds a net of the simple strategy, which shows its ranges as spans and its trace events in
the log. -/
def buildSimple : NetConstructor Op σ := fun spec factory state config =>
  let built := Net.build spec factory state
  { built with
    outcome := built.outcome.map fun net =>
      { net with config, profiler := .newSpans, traceSink := .logged } }

namespace NetRegistry

def withDefaults : NetRegistry Op σ := NameMap.empty.insert simpleNetType buildSimple

def register (r : NetRegistry Op σ) (netType : String) (make : NetConstructor Op σ) :
    NetRegistry Op σ := r.insert netType make

/-- Builds a net with the constructor of its strategy. -/
def create (r : NetRegistry Op σ) (spec : NetSpec) (factory : Factory Op σ) (state : σ)
    (config : ExecutionConfig) : Built Op σ :=
  match r.get? spec.strategy with
  | none => { outcome := .error (.unknownNetType spec.strategy), state, events := [] }
  | some make =>
    let built := make spec factory state config
    { built with
      events := .logged .debug LogTarget.registry
        s!"Creating net {spec.name} of type {spec.strategy}" :: built.events }

end NetRegistry

end Dataflow
