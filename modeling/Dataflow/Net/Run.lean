/-
Runs of a net: the operators one after the other, and the first failure ends
the run. All observers hear of the start before the first operator, and of the
stop only when no operator failed. Around every operator stand its trace
events, and inside them its range, when ranges are on.
-/
import Dataflow.Net.Basic

namespace Dataflow

variable {Op World : Type} [Operator Op World]

/-- What comes of running operators from some position on. -/
structure Pass (Op World : Type) where
  operators : List (NetOperator Op)
  world : World
  profiler : Profiler
  events : List Event
  failure : Option NetError

structure RunSetting where
  netName : String
  ranges : Bool

def NetOperator.point (o : NetOperator Op) (netName : String) (position : Nat) : TracePoint where
  netName := netName
  opName := o.spec.name
  opType := o.spec.opType
  opId := position

/-- Runs one operator inside its range: a pass over that operator alone. -/
def runInRange (ranges : Bool) (position : Nat) (o : NetOperator Op) (world : World)
    (profiler : Profiler) : Ran Op World × Profiler × List Event :=
  let ran := Operator.run o.op world
  if ranges then
    let (range, profiler) := profiler.startRange o.spec.opType .run
    let (ended, profiler) := profiler.endRange range.id
    (ran, profiler, [.rangeStart range, .operatorRun position, ended])
  else (ran, profiler, [.operatorRun position])

def NetOperator.failed (o : NetOperator Op) (position : Nat) (cause : Failure) : NetError :=
  .operatorFailed position o.spec.name o.spec.opType cause

/-- Runs operators, the first of them at a position, until one fails. -/
def runOperators (setting : RunSetting) :
    Nat → List (NetOperator Op) → World → Profiler → Pass Op World
  | _, [], world, profiler =>
    { operators := [], world, profiler, events := [], failure := none }
  | position, o :: rest, world, profiler =>
    let point := o.point setting.netName position
    let announced := Event.logged .debug LogTarget.net
      s!"Running operator {o.spec.name}({o.spec.opType})."
    let (ran, profiler, events) := runInRange setting.ranges position o world profiler
    let o' := { o with op := ran.op }
    let events := announced :: .operatorStart point :: events ++ [.operatorDone point]
    match ran.failure with
    | some cause =>
      { operators := o' :: rest
        world := ran.world
        profiler
        events := events ++
          [.logged .error LogTarget.net ("Operator failed: " ++ o.spec.debugString)]
        failure := some (o.failed position cause) }
    | none =>
      let later := runOperators setting (position + 1) rest ran.world profiler
      { later with operators := o' :: later.operators, events := events ++ later.events }

/-- A net and its world after a call, what happened, and what the call returns. -/
structure After (Op World α : Type) where
  net : Net Op
  world : World
  events : List Event
  outcome : Except NetError α

namespace Net

def setting (net : Net Op) : RunSetting := ⟨net.name, net.config.profilerRanges⟩

def run (net : Net Op) (world : World) : After Op World Unit :=
  let pass := runOperators net.setting 0 net.operators world net.profiler
  let announced := Event.logged .debug LogTarget.net s!"Running net {net.name}"
  let events := net.observers.started ++ announced :: pass.events
  let net := { net with operators := pass.operators, profiler := pass.profiler }
  match pass.failure with
  | some e => { net, world := pass.world, events, outcome := .error e }
  | none =>
    { net
      world := pass.world
      events := events ++ net.observers.stopped
      outcome := .ok () }

/-- Submits a run and waits for it: the same as a run. -/
def runAsync (net : Net Op) (world : World) : After Op World Unit := net.run world

/-- Runs the net `count` times or until a run fails; an error comes with the number of runs that
succeeded before. -/
def runTimes (net : Net Op) (world : World) : Nat → After Op World Unit × Nat
  | 0 => ({ net, world, events := [], outcome := .ok () }, 0)
  | count + 1 =>
    let first := net.run world
    match first.outcome with
    | .error _ => (first, 0)
    | .ok () =>
      let (later, succeeded) := first.net.runTimes first.world count
      ({ later with events := first.events ++ later.events }, succeeded + 1)

end Net

end Dataflow
