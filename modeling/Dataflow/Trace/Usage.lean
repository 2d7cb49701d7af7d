/-
Uses of a profiler: ranges opened and ended by hand, and guards, which keep a
range open around what is done inside them. A guard that is not enabled leaves
the profiler alone.
-/
import Dataflow.Trace.Event

namespace Dataflow

inductive RangeUse
  | start (label : String) (color : Color)
  | finish (id : Nat)
  | guarded (enabled : Bool) (label : String) (color : Color) (inner : List RangeUse)

/-- What a use leads to: the identifier it gives, what it does to the profiler, and the number of
ranges open afterwards. A guard is told apart into its beginning, what happens inside, and its
end. -/
inductive RangeReply
  | started (id : Nat) (events : List Event) (opened : Nat)
  | finished (events : List Event) (opened : Nat)
  | entered (events : List Event) (opened : Nat)
  | left (inner : List RangeReply) (events : List Event) (opened : Nat)

namespace Profiler

mutual

/-- Uses a profiler once. The notes are collected after every step. -/
def use (p : Profiler) : RangeUse → List RangeReply × Profiler
  | .start label color =>
    let (range, p) := p.startRange label color
    ([.started range.id [.rangeStart range] p.opened.length], p.collect)
  | .finish id =>
    let (event, p) := p.endRange id
    ([.finished [event] p.opened.length], p.collect)
  | .guarded false _ _ inner =>
    let entered := RangeReply.entered [] p.opened.length
    let (replies, p) := p.useAll inner
    ([entered, .left replies [] p.opened.length], p)
  | .guarded true label color inner =>
    let (range, p) := p.startRange label color
    let entered := RangeReply.entered [.rangeStart range] p.opened.length
    let (replies, p) := p.collect.useAll inner
    let (event, p) := p.endRange range.id
    ([entered, .left replies [event] p.opened.length], p.collect)

def useAll (p : Profiler) : List RangeUse → List RangeReply × Profiler
  | [] => ([], p)
  | first :: rest =>
    let (replies, p) := p.use first
    let (others, p) := p.useAll rest
    (replies ++ others, p)

end

end Profiler

end Dataflow
