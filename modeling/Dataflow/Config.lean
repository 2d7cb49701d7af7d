/-
How a net is to be executed. The environment can turn the ranges around
operator runs on.
-/
import Dataflow.Json.Basic
import Dataflow.Json.Record
import Dataflow.Text.Blank

namespace Dataflow

open Json

structure ExecutionConfig where
  /-- whether a range is opened around every operator run -/
  profilerRanges : Bool := false
  deriving DecidableEq, BEq

namespace ExecutionConfig

/-- The environment variable that decides about the ranges. -/
def rangesVariable : String := "OPGRAPH_PROFILER_RANGES"

/-- What a flag says, in any case and with blanks around it. -/
def parseFlag (value : String) : Option Bool :=
  let word := String.ofList ((Text.trim value.toList).map Char.toLower)
  if ["1", "true", "yes", "on"].contains word then some true
  else if ["0", "false", "no", "off"].contains word then some false
  else none

/-- The configuration of an environment, by the value of `rangesVariable`; what is unset or cannot
be read is the default. -/
def ofEnvironment (value : Option String) : ExecutionConfig :=
  { profilerRanges := (value.bind parseFlag).getD false }

structure Draft where
  profilerRanges : Option Bool := none

def record : Record Draft ExecutionConfig where
  name := "ExecutionConfig"
  fields := [.slot "profiler_ranges" false Reader.bool (·.profilerRanges)
    (fun d v => { d with profilerRanges := some v })]
  blank := {}
  build d := .ok { profilerRanges := d.profilerRanges.getD false }

def reader : Reader ExecutionConfig := record.reader

def toJson (c : ExecutionConfig) : Json := .object [("profiler_ranges", .bool c.profilerRanges)]

end ExecutionConfig

end Dataflow
