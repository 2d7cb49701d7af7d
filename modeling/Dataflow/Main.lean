/-
The command of the benchmark tool: reads the environment and the file, measures
the runs, prints what `Tool.run` says, and exits with its code.

The times come from a rehearsal: the same runs on the same net, one after the
other, under the clock of the machine.
-/
import Dataflow.CommandLine.Tool

namespace Dataflow.Command

open Reference

def fileFault : IO.Error → FileFault
  | .noFileOrDirectory .. => .missing
  | .permissionDenied .. => .denied
  | .inappropriateType _ code _ => if code = 21 then .folder else .notFolder
  | .invalidArgument _ code _ => if code = 22 then .nameHoldsNul else .nameTooLong
  | e => .other (toString e)

def readFile (path : String) : IO (Except FileFault ByteArray) := do
  try return .ok (← IO.FS.readBinFile path)
  catch e => return .error (fileFault e)

def confine (x : Float32) : Float32 := if -1 ≤ x ∧ x < 1 then x else 0

theorem confine_inRange (x : Float32) : -1 ≤ confine x ∧ confine x < 1 := by
  unfold confine
  split
  · assumption
  · decide

/-- Numbers from the high bits of the hash of a seed and a position. -/
def generator : Generator where
  number seed n :=
    confine (Numeric.single ((mixHash seed (.ofNat n) >>> 40).toNat - 8388608) / Numeric.single 8388608)
  inRange _ _ := confine_inRange _

/-- A computation and the milliseconds that it takes. -/
def timed {α : Type} (compute : Unit → α) : IO (α × Float32) := do
  let before ← IO.monoNanosNow
  let value ← IO.lazyPure compute
  let after ← IO.monoNanosNow
  return (value, ((after - before).toFloat / 1000000).toFloat32)

/-- Times every operator on its own, in order, as often as there are main runs. -/
def rehearseOperators (args : Arguments) (net : Net RefOperator) (world : Workspace) :
    IO (Array Float32) := do
  let mut world := world
  let mut times := #[]
  for _ in [0:args.mainRuns.toNat] do
    for o in net.operators do
      let (ran, millis) ← timed fun _ => Operator.run o.op world
      world := ran.world
      times := times.push millis
  return times

def rehearse (args : Arguments) (p : Tool.Prepared) : IO (Array Float32) := do
  let (warm, _) := p.net.runTimes p.workspace args.warmupRuns.toNat
  let ((main, _), millis) ← timed fun _ => warm.net.runTimes warm.world args.mainRuns.toNat
  let times ← if args.individual then rehearseOperators args main.net main.world else pure #[]
  return #[millis] ++ times

/-- The measurements of the call that the words of a command line stand for, if it gets as far. -/
def measurements (words : List String) (files : Files) (ranges : Option String) :
    IO (Array Float32) := do
  let prepared := do
    let args ← (Arguments.parse words).toOption
    let spec ← (NetSpec.load files args.net).toOption
    let p ← (Tool.prepare args (.ofEnvironment ranges) generator spec).outcome.toOption
    return (args, p)
  match prepared with
  | some (args, p) => rehearse args p
  | none => return #[]

end Dataflow.Command

open Dataflow in
def main (words : List String) : IO UInt32 := do
  let content ← match Arguments.parse words with
    | .ok args => Command.readFile args.net
    | .error _ => pure (.error .missing)
  let files : Files := fun _ => content
  let ranges ← IO.getEnv ExecutionConfig.rangesVariable
  let times ← Command.measurements words files ranges
  let exit := Tool.run words
    { files, ranges, generator := Command.generator, logFilter := ← IO.getEnv "RUST_LOG"
      clock := fun k => times[k]?.getD 0 }
  for line in exit.output do IO.println line
  IO.eprint exit.errors
  for reason in exit.broken.toList do IO.eprintln reason
  return exit.code.toUInt32
