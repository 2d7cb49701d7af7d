/-
Profilers: where the ranges of a run are shown. A profiler gives every range an
identifier when it opens. The span profiler numbers its ranges, keeps those
that are open in the order in which they opened, and ignores the end of a range
that is not open. The recorder notes every call. Numbers are not bounded here:
identifiers fit 64 bits as long as no more than `2 ^ 64` ranges start.
-/

namespace Dataflow

inductive Color
  | run | record | wait
  deriving DecidableEq, Repr

/-- The colour as alpha, red, green and blue in 32 bits. -/
def Color.argb : Color → Nat
  | .run => 0x0000ccff
  | .record => 0x00ff3300
  | .wait => 0x0066ff33

structure ProfilerRange where
  id : Nat
  label : String
  color : Color
  deriving DecidableEq

inductive Profiler
  | silent
  /-- the next identifier, and the open ranges in the order in which they opened -/
  | spans (next : Nat) (opened : List ProfilerRange)
  /-- the calls noted and not yet collected -/
  | recorder (pending : Nat)
  deriving DecidableEq

namespace Profiler

def newSpans : Profiler := .spans 0 []

/-- Opens a range: its identifier, and the profiler afterwards. -/
def start (label : String) (color : Color) : Profiler → Nat × Profiler
  | .silent => (0, .silent)
  | .spans next opened => (next, .spans (next + 1) (opened ++ [⟨next, label, color⟩]))
  | .recorder pending => (pending + 1, .recorder (pending + 1))

/-- Takes the range of an identifier that was opened last out of the open ranges. -/
def takeOut (id : Nat) (opened : List ProfilerRange) : Option ProfilerRange × List ProfilerRange :=
  let latestFirst := opened.reverse
  (latestFirst.find? (·.id == id), (latestFirst.eraseP (·.id == id)).reverse)

/-- Ends a range: the range that this closes, if any, and the profiler afterwards. -/
def finish (id : Nat) : Profiler → Option ProfilerRange × Profiler
  | .silent => (none, .silent)
  | .spans next opened =>
    let (closed, remaining) := takeOut id opened
    (closed, .spans next remaining)
  | .recorder pending => (none, .recorder (pending + 1))

def isSpans : Profiler → Bool
  | .spans .. => true
  | _ => false

def isRecorder : Profiler → Bool
  | .recorder _ => true
  | _ => false

/-- The open ranges, which only the span profiler keeps. -/
def opened : Profiler → List ProfilerRange
  | .spans _ opened => opened
  | _ => []

def collect : Profiler → Profiler
  | .recorder _ => .recorder 0
  | p => p

end Profiler

end Dataflow
