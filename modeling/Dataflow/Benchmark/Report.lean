/-
Reports of benchmarks, and the log entries they are shown in.
-/
import Dataflow.Benchmark.Metric
import Dataflow.Cost
import Dataflow.Numeric.Layout
import Dataflow.Trace.Log

namespace Dataflow

open Numeric

structure OperatorReport where
  index : Nat
  name : String
  opType : String
  millisPerIter : Float32
  cost : Option Cost

namespace OperatorReport

def gflops (r : OperatorReport) : Option Float :=
  match r.cost with
  | none => none
  | some cost =>
    if 0 < cost.flops && 0 < r.millisPerIter then
      some (1.0e-6 * cost.flops.toFloat / widen r.millisPerIter)
    else none

/-- The amounts of a cost that are not zero. -/
def describeCost (r : OperatorReport) (cost : Cost) : String :=
  let flops :=
    if 0 < cost.flops then
      s!" ({fixed 6 (1.0e-9 * cost.flops.toFloat)} GFLOP, {fixed 6 (r.gflops.getD 0)} GFLOPS)"
    else ""
  let moved :=
    if 0 < cost.bytesMoved then s!" ({fixed 6 (1.0e-6 * cost.bytesMoved.toFloat)} MB)" else ""
  let params :=
    if 0 < cost.paramsBytes then s!" ({fixed 6 (1.0e-6 * cost.paramsBytes.toFloat)} MB params)"
    else ""
  flops ++ moved ++ params

def describe (r : OperatorReport) : String :=
  s!"Operator #{r.index} ({r.name}, {r.opType}) {plain32 r.millisPerIter} ms/iter" ++
    (match r.cost with
      | some cost => r.describeCost cost
      | none => "")

end OperatorReport

namespace Breakdown

def describe (b : Breakdown Float) : List String :=
  let unit := b.metric.unit
  [s!"{b.metric.label} per operator type:"] ++
    (b.entries.map fun e =>
      s!"{padLeft 15 (fixed 6 e.value)} {unit}. {padLeft 10 (fixed 4 e.percent)}%. {e.opType}") ++
    [s!"{padLeft 15 (fixed 6 b.total)} {unit} in Total"]

end Breakdown

/-- What a benchmark found out. Without individual timing there is nothing on operators. -/
structure BenchmarkReport where
  mainRuns : Int
  millisPerIter : Float32
  itersPerSecond : Float32
  operators : List OperatorReport := []
  breakdowns : List (Breakdown Float) := []

namespace BenchmarkReport

/-- The time of a main run, and then the time of each operator. -/
def timings (r : BenchmarkReport) : List Float32 :=
  r.millisPerIter :: r.operators.map OperatorReport.millisPerIter

def breakdown? (r : BenchmarkReport) (metric : Metric) : Option (Breakdown Float) :=
  r.breakdowns.find? (·.metric == metric)

def lines (r : BenchmarkReport) : List String :=
  r.operators.map OperatorReport.describe ++ r.breakdowns.flatMap Breakdown.describe

def entries (r : BenchmarkReport) : List LogEntry :=
  r.lines.map fun line => { level := .info, target := LogTarget.benchmark, message := line }

end BenchmarkReport

end Dataflow
