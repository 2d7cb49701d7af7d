/-
Benchmarks of a net: warm up runs, main runs under one measurement, and, where
asked for, as many iterations that time every operator on its own. The first of
these iterations also estimates the cost of the operators, each right before
its own run, so from the shapes that the operators before it have left.

What a clock would show is given as a function: the milliseconds of each
measurement, in the order in which they are taken.
-/
import Dataflow.Benchmark.Report
import Dataflow.Net.Run
import Dataflow.Schema
import Dataflow.Text.Grouped

namespace Dataflow

open Numeric

variable {Op World : Type} [Operator Op World]

/-- The milliseconds of each measurement: that of the main runs first, then one for each operator
timed individually. -/
abbrev Clock := Nat → Float32

structure Sample where
  position : Nat
  opType : String
  millis : Float32

/-- What comes of timing operators individually, from some position on. -/
structure Timed (Op World : Type) where
  operators : List (NetOperator Op)
  world : World
  events : List Event := []
  samples : List Sample := []
  costs : List (Option Cost) := []
  failure : Option NetError := none

def benchmarkLog (level : Level) (message : String) : Event :=
  .logged level LogTarget.benchmark message

def describeEstimate (position : Nat) (opType : String) (c : Cost) : String :=
  s!"Operator #{position} ({opType}): {Text.grouped c.flops.toNat} flops, " ++
    s!"{Text.grouped c.bytesMoved.toNat} bytes moved, " ++
    s!"{Text.grouped c.paramsBytes.toNat} parameter bytes"

/-- Estimates the cost of an operator, if its type is costed and the shapes of all its inputs are
known. -/
def estimateCost (schemas : SchemaRegistry) (position : Nat) (o : NetOperator Op) (world : World) :
    Option Cost × World × List Event :=
  match schemas.costFunction? o.spec.opType with
  | none => (none, world, [])
  | some f =>
    let (shapes, world) := Operator.inputShapes o.op world
    if shapes.length ≠ o.spec.inputs.length then
      (none, world, [.shapesAsked position,
        benchmarkLog .debug s!"Operator #{position} ({o.spec.opType}): unknown input shapes"])
    else
      let cost := f o.spec shapes
      (some cost, world, [.shapesAsked position, .costInferred o.spec shapes,
        benchmarkLog .debug (describeEstimate position o.spec.opType cost)])

structure TimingSetting where
  /-- the schemas to estimate costs by, in the first iteration only -/
  schemas : Option SchemaRegistry
  clock : Clock

/-- Times operators, the first of them at a position, until one fails. -/
def timeOperators (setting : TimingSetting) :
    Nat → List (NetOperator Op) → World → Timed Op World
  | _, [], world => { operators := [], world }
  | position, o :: rest, world =>
    let (cost, world, estimated) :=
      match setting.schemas with
      | some schemas => estimateCost schemas position o world
      | none => (none, world, [])
    let ran := Operator.run o.op world
    let o' := { o with op := ran.op }
    let events := estimated ++ [.operatorRun position]
    match ran.failure with
    | some cause =>
      { operators := o' :: rest, world := ran.world, events, costs := [cost],
        failure := some (o.failed position cause) }
    | none =>
      let later := timeOperators setting (position + 1) rest ran.world
      { later with
        operators := o' :: later.operators
        events := events ++ later.events
        samples := ⟨position, o.spec.opType, setting.clock position⟩ :: later.samples
        costs := cost :: later.costs }

/-- Clears all operators, the first of them at a position. -/
def resetOperators : Nat → List (NetOperator Op) → World → World × List Event
  | _, [], world => (world, [])
  | position, o :: rest, world =>
    let (world, events) := resetOperators (position + 1) rest (Operator.reset o.op world)
    (world, .operatorReset position :: events)

/-- Clears and times all operators `count` times or until one fails. Costs are estimated when
`schemas` is given, in the first iteration. -/
def timeIterations (schemas : Option SchemaRegistry) (clock : Clock) (operators : List (NetOperator Op))
    (world : World) : Nat → Timed Op World
  | 0 => { operators, world, costs := operators.map fun _ => none }
  | count + 1 =>
    let (world, cleared) := resetOperators 0 operators world
    let first := timeOperators ⟨schemas, clock⟩ 0 operators world
    match first.failure with
    | some _ => { first with events := cleared ++ first.events }
    | none =>
      let later := timeIterations none (fun k => clock (k + operators.length)) first.operators
        first.world count
      { later with
        events := cleared ++ first.events ++ later.events
        samples := first.samples ++ later.samples
        costs := first.costs }

def timeOf (samples : List Sample) (position : Nat) : Float32 :=
  (samples.filter (·.position == position)).foldl (fun total s => total + s.millis) 0

def costsByType (operators : List OperatorReport) : List (String × Cost) :=
  operators.filterMap fun o => o.cost.map fun c => (o.opType, c)

/-- The sums of a metric by operator type. -/
def totalsOf (samples : List Sample) (operators : List OperatorReport) : Metric → NameMap Float
  | .time => .tally (samples.map fun s => (s.opType, widen s.millis))
  | .flop => .tally ((costsByType operators).map fun (t, c) => (t, c.flops.toFloat))
  | .featureMemory => .tally ((costsByType operators).map fun (t, c) => (t, c.bytesMoved.toFloat))
  | .parameterMemory =>
    .tally ((costsByType operators).map fun (t, c) => (t, c.paramsBytes.toFloat))

def operatorReports (mainRuns : Int) (operators : List (NetOperator Op)) (samples : List Sample)
    (costs : List (Option Cost)) : List OperatorReport :=
  (operators.zip costs).mapIdx fun index (o, cost) =>
    { index
      name := o.spec.displayName
      opType := o.spec.opType
      millisPerIter := timeOf samples index / single mainRuns
      cost }

def checkRunCount (kind : RunKind) (value : Int) : Except NetError Unit :=
  if value < 0 then .error (.invalidRunCount kind value) else .ok ()

structure BenchmarkSetting where
  schemas : SchemaRegistry
  warmupRuns : Int
  mainRuns : Int
  individual : Bool
  clock : Clock

/-- The counts of a benchmark must not be negative; that of the warm up runs is looked at first. -/
def BenchmarkSetting.check (setting : BenchmarkSetting) : Except NetError Unit := do
  checkRunCount .warmup setting.warmupRuns
  checkRunCount .main setting.mainRuns

/-- The report on the main runs, which took some milliseconds together. -/
def BenchmarkReport.ofMainRuns (mainRuns : Int) (millis : Float32) : BenchmarkReport where
  mainRuns := mainRuns
  millisPerIter := millis / single mainRuns
  itersPerSecond := 1000 * single mainRuns / millis

/-- The report with what the individual runs showed. -/
def BenchmarkReport.withOperators (r : BenchmarkReport) (timed : Timed Op World) :
    BenchmarkReport :=
  let operators := operatorReports r.mainRuns timed.operators timed.samples timed.costs
  { r with
    operators
    breakdowns := Metric.all.map fun metric =>
      .ofTotals metric (totalsOf timed.samples operators metric) (metric.normalizer r.mainRuns) }

namespace Net

/-- Times the operators individually, and completes a report on the main runs. -/
def timeIndividually (net : Net Op) (world : World) (setting : BenchmarkSetting)
    (report : BenchmarkReport) : After Op World BenchmarkReport :=
  let timed := timeIterations (some setting.schemas) (fun k => setting.clock (k + 1))
    net.operators world setting.mainRuns.toNat
  let net := { net with operators := timed.operators }
  match timed.failure with
  | some e => { net, world := timed.world, events := timed.events, outcome := .error e }
  | none =>
    let report := report.withOperators timed
    { net
      world := timed.world
      events := timed.events ++ report.entries.map Event.log
      outcome := .ok report }

/-- The main runs, and what comes after them. -/
def mainRuns (net : Net Op) (world : World) (setting : BenchmarkSetting) :
    After Op World BenchmarkReport :=
  let announced := benchmarkLog .info "Main runs."
  let (main, succeeded) := net.runTimes world setting.mainRuns.toNat
  match main.outcome with
  | .error e =>
    { net := main.net
      world := main.world
      events := announced :: main.events
      outcome := .error (.mainRunFailed succeeded e) }
  | .ok () =>
    let report := BenchmarkReport.ofMainRuns setting.mainRuns (setting.clock 0)
    let events := announced :: main.events ++ [benchmarkLog .info
      s!"Main run finished. Milliseconds per iter: {plain32 report.millisPerIter}. Iters per second: {plain32 report.itersPerSecond}"]
    if setting.individual then
      let timed := main.net.timeIndividually main.world setting report
      { timed with events := events ++ timed.events }
    else { net := main.net, world := main.world, events, outcome := .ok report }

def benchmarkReport (net : Net Op) (world : World) (setting : BenchmarkSetting) :
    After Op World BenchmarkReport :=
  let announced := benchmarkLog .info "Starting benchmark."
  match setting.check with
  | .error e => { net, world, events := [announced], outcome := .error e }
  | .ok () =>
    let events := [announced, benchmarkLog .info "Running warmup runs."]
    let (warm, succeeded) := net.runTimes world setting.warmupRuns.toNat
    match warm.outcome with
    | .error e =>
      { net := warm.net
        world := warm.world
        events := events ++ warm.events
        outcome := .error (.warmupFailed succeeded e) }
    | .ok () =>
      let main := warm.net.mainRuns warm.world setting
      { main with events := events ++ warm.events ++ main.events }

/-- Benchmarks the net, for the times alone. -/
def benchmark (net : Net Op) (world : World) (setting : BenchmarkSetting) :
    After Op World (List Float32) :=
  let after := net.benchmarkReport world setting
  { net := after.net
    world := after.world
    events := after.events
    outcome := after.outcome.map BenchmarkReport.timings }

end Net

end Dataflow
