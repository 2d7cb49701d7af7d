import Dataflow.Main
import Dataflow.Operator.Scripted
import Dataflow.Trace.Usage
import Dataflow.Proofs.Net.Calls
import Dataflow.Proofs.Net.Alike
import Dataflow.Proofs.Benchmark.Runs
import Dataflow.Proofs.Operator.Shapes
import Dataflow.Proofs.Benchmark.Alike
import Dataflow.Proofs.Benchmark.Shapes
import Dataflow.Proofs.NameMap
import Dataflow.Proofs.Operator.Frame
import Dataflow.Proofs.Benchmark.Repetition
import Dataflow.Proofs.Net.Reordering
import Dataflow.Proofs.Operator.Description
import Dataflow.Proofs.Net.Turns
import Dataflow.Proofs.Net.Events
import Dataflow.Proofs.Net.Building
import Dataflow.Proofs.Schema
import Dataflow.Proofs.Benchmark.Success
import Dataflow.Proofs.Benchmark.Costs
import Dataflow.Proofs.Operator.Cost
import Dataflow.Proofs.Benchmark.Work
import Dataflow.Proofs.Json.Numeral
import Dataflow.Proofs.Json.Single
import Dataflow.Proofs.Json.Scan
import Dataflow.Proofs.Json.Assembly
import Dataflow.Proofs.Json.Reading
import Dataflow.Proofs.Spec.Parts
import Dataflow.Proofs.Spec.RoundTrip
import Dataflow.Proofs.Net.Writes
import Dataflow.Proofs.Benchmark.Breakdown
import Dataflow.Proofs.Net.Limits
import Dataflow.Proofs.Net.LiveIn
import Dataflow.Proofs.Numeric.Whole
import Dataflow.Proofs.Benchmark.Types
import Dataflow.Proofs.Net.Construction
import Dataflow.Proofs.Benchmark.Replay
import Dataflow.Proofs.Benchmark.Hooks
import Dataflow.Proofs.Benchmark.Counts
import Dataflow.Proofs.Benchmark.Notices
import Dataflow.Proofs.Benchmark.Histories
import Dataflow.Proofs.Tensor.Bounds
import Dataflow.Proofs.Tensor.Sources
import Dataflow.Proofs.Benchmark.Consistency
import Dataflow.Proofs.Json.Grammar
import Dataflow.Proofs.Json.Members
import Dataflow.Proofs.Spec.Spellings
import Dataflow.Proofs.CommandLine.Inputs
import Dataflow.Proofs.CommandLine.Outcome
import Dataflow.Proofs.Benchmark.Ranking
import Dataflow.Proofs.Tensor.Layer
import Dataflow.Proofs.Numeric.Overflow
import Dataflow.Proofs.Spec.Arguments
import Dataflow.Proofs.Tensor.Rows
import Dataflow.Proofs.Tensor.Unfit
import Dataflow.Proofs.Json.Places
import Dataflow.Proofs.Json.Cut
import Dataflow.Proofs.Json.Ending
import Dataflow.Proofs.Spec.Truncation
import Dataflow.Proofs.Json.Positions
import Dataflow.Proofs.Spec.Positional
import Dataflow.Proofs.Spec.Pretty
import Dataflow.Proofs.CommandLine.Dimensions
import Dataflow.Proofs.Tensor.Texts
import Dataflow.Proofs.Net.Attribution
import Dataflow.Proofs.Trace.Guards
