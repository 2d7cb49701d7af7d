/-
Log entries: how severe, from which part of the program, and what happened.
-/

namespace Dataflow

/-- How severe an entry is, the most severe first. -/
inductive Level
  | error | warn | info | debug | trace
  deriving DecidableEq, Repr

namespace Level

def rank : Level → Nat
  | error => 1
  | warn => 2
  | info => 3
  | debug => 4
  | trace => 5

def name : Level → String
  | error => "ERROR"
  | warn => "WARN"
  | info => "INFO"
  | debug => "DEBUG"
  | trace => "TRACE"

/-- Whether entries of a level are kept when `most` is the least severe one kept. -/
def within (level most : Level) : Bool := level.rank ≤ most.rank

end Level

inductive FieldValue
  | text (s : String)
  | number (n : Nat)
  deriving DecidableEq

structure LogEntry where
  level : Level
  target : String
  message : String
  fields : List (String × FieldValue) := []
  deriving DecidableEq

/-- The parts of the program that log. -/
def LogTarget.tool : String := "bench_net"

def LogTarget.registry : String := "opgraph::registry"

def LogTarget.net : String := "opgraph::net"

def LogTarget.benchmark : String := "opgraph::benchmark"

def LogTarget.operators : String := "opgraph::ops"

def LogTarget.trace : String := "opgraph::trace"

end Dataflow
