/-
Why a net cannot be built, run or benchmarked.
-/
import Dataflow.Failure

namespace Dataflow

open Text

inductive RunKind
  | warmup | main
  deriving DecidableEq

def RunKind.name : RunKind → String
  | .warmup => "warm up"
  | .main => "main"

inductive NetError
  | invalidRunCount (kind : RunKind) (value : Int)
  | operatorCreation (position : Nat) (opType : String) (cause : Failure)
  | operatorFailed (position : Nat) (name opType : String) (cause : Failure)
  | warmupFailed (iteration : Nat) (source : NetError)
  | mainRunFailed (iteration : Nat) (source : NetError)
  | unknownNetType (netType : String)
  deriving DecidableEq

namespace NetError

def message : NetError → String
  | invalidRunCount kind value =>
    s!"Number of {kind.name} runs should be non negative, provided {value}."
  | operatorCreation position opType cause =>
    s!"Failed to create operator #{position} ({opType}): {cause.message}"
  | operatorFailed position name opType cause =>
    s!"Operator #{position} {name}({opType}) has failed: {cause.message}"
  | warmupFailed iteration source => s!"Warmup run {iteration} has failed: {source.message}"
  | mainRunFailed iteration source => s!"Main run {iteration} has failed: {source.message}"
  | unknownNetType netType => s!"Unknown net type {quoted netType}"

/-- The position of the operator at the origin of the error, if any. -/
def failedPosition : NetError → Option Nat
  | operatorCreation position _ _ | operatorFailed position _ _ _ => some position
  | warmupFailed _ source | mainRunFailed _ source => source.failedPosition
  | invalidRunCount .. | unknownNetType _ => none

/-- The error of the run that made a benchmark fail. -/
def source? : NetError → Option NetError
  | warmupFailed _ source | mainRunFailed _ source => some source
  | _ => none

/-- The messages of the error and of its sources, the outermost first. -/
def chain : NetError → List String
  | e@(warmupFailed _ source) | e@(mainRunFailed _ source) => e.message :: source.chain
  | e => [e.message]

end NetError

end Dataflow
