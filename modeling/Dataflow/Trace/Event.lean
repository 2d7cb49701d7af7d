/-
What happens while a net is built, run and benchmarked, in order. Observers,
trace events and ranges are calls on the net's surroundings; what is shown of
them depends on the sink they go to.
-/
import Dataflow.Cost
import Dataflow.Text.Hex
import Dataflow.Trace.Log
import Dataflow.Trace.Profiler

namespace Dataflow

structure TracePoint where
  netName : String
  opName : String
  opType : String
  opId : Nat
  deriving DecidableEq

inductive Event
  | log (entry : LogEntry)
  | observerStart (label : String)
  | observerStop (label : String)
  | operatorStart (point : TracePoint)
  | operatorDone (point : TracePoint)
  | rangeStart (range : ProfilerRange)
  /-- the end of a range, and the range that this closed, if any -/
  | rangeEnd (id : Nat) (closed : Option ProfilerRange)
  | operatorRun (position : Nat)
  | operatorReset (position : Nat)
  | shapesAsked (position : Nat)
  | costInferred (spec : OperatorSpec) (shapes : List Shape)

inductive TraceSink
  | silent | logged | recorded
  deriving DecidableEq

namespace Event

def logged (level : Level) (target message : String) : Event := .log { level, target, message }

def observerNote : Event → Option String
  | .observerStart label => some s!"{label}:start"
  | .observerStop label => some s!"{label}:stop"
  | _ => none

def pointNote (kind : String) (p : TracePoint) : String :=
  s!"{kind} {p.netName} {p.opName} {p.opType} {p.opId}"

def traceNote : Event → Option String
  | .operatorStart p => some (pointNote "start" p)
  | .operatorDone p => some (pointNote "done" p)
  | _ => none

def rangeNote : Event → Option String
  | .rangeStart r => some s!"begin {r.label} 0x{Text.hex 8 r.color.argb}"
  | .rangeEnd .. => some "end"
  | _ => none

def pointEntry (message : String) (p : TracePoint) : LogEntry where
  level := .trace
  target := LogTarget.trace
  message := message
  fields := [("net", .text p.netName), ("op", .text p.opName), ("op_type", .text p.opType),
    ("op_id", .number p.opId)]

/-- The log entry of a trace event. -/
def traceEntry : Event → Option LogEntry
  | .operatorStart p => some (pointEntry "operator_start" p)
  | .operatorDone p => some (pointEntry "operator_done" p)
  | _ => none

/-- The range whose span an event opens or closes: whether it opens, and the range. -/
def spanChange : Event → Option (Bool × ProfilerRange)
  | .rangeStart r => some (true, r)
  | .rangeEnd _ closed => closed.map fun r => (false, r)
  | _ => none

end Event

namespace Profiler

def startRange (p : Profiler) (label : String) (color : Color) : ProfilerRange × Profiler :=
  let (id, p) := p.start label color
  (⟨id, label, color⟩, p)

def endRange (p : Profiler) (id : Nat) : Event × Profiler :=
  let (closed, p) := p.finish id
  (.rangeEnd id closed, p)

end Profiler

end Dataflow
