/-
The quantities that a benchmark sums up for each operator type, and how the
sums are broken down: every type with its value and its share of the total, the
largest first. Types of the same value keep the order of their names.

The arithmetic is a parameter, so that what is true of exact numbers can be
said of them.
-/
import Dataflow.NameMap
import Dataflow.Numeric.Binary

namespace Dataflow

inductive Metric
  | time | flop | featureMemory | parameterMemory
  deriving DecidableEq, Repr

namespace Metric

def all : List Metric := [time, flop, featureMemory, parameterMemory]

def label : Metric → String
  | time => "Time"
  | flop => "FLOP"
  | featureMemory => "Feature Memory"
  | parameterMemory => "Parameter Memory"

def unit : Metric → String
  | time => "ms"
  | flop => "GFLOP"
  | featureMemory | parameterMemory => "MB"

/-- What a sum is multiplied by: a time is averaged over the main runs, operations and bytes are
counted in units of 10⁹ and 10⁶. -/
def normalizer (mainRuns : Int) : Metric → Float
  | time => 1.0 / Numeric.double mainRuns
  | flop => 1.0e-9
  | featureMemory | parameterMemory => 1.0e-6

end Metric

structure TypeShare (α : Type) where
  opType : String
  value : α
  percent : α
  deriving DecidableEq

structure Breakdown (α : Type) where
  metric : Metric
  entries : List (TypeShare α)
  total : α
  deriving DecidableEq

namespace Breakdown

variable {α : Type}

/-- The values of the types, the largest first. -/
def ranked [Mul α] [LT α] [DecidableLT α] (totals : NameMap α) (normalizer : α) :
    List (String × α) :=
  (totals.toList.map fun (opType, value) => (opType, value * normalizer)).mergeSort
    fun a b => !decide (a.2 < b.2)

/-- The sum of some values from left to right, which starts from minus zero. -/
def sum [Add α] [Neg α] [OfNat α 0] (values : List α) : α := values.foldl (· + ·) (-0)

/-- The share of a value in a total, zero when the total is not positive. -/
def percentOf [Mul α] [Div α] [LT α] [DecidableLT α] [OfNat α 0] [OfNat α 100]
    (value total : α) : α :=
  if 0 < total then 100 * value / total else 0

/-- The breakdown of the sums of some types. -/
def ofTotals [Add α] [Mul α] [Div α] [Neg α] [LT α] [DecidableLT α] [OfNat α 0] [OfNat α 100]
    (metric : Metric) (totals : NameMap α) (normalizer : α) : Breakdown α :=
  let values := ranked totals normalizer
  let total := sum (values.map (·.2))
  { metric
    entries := values.map fun (opType, value) => ⟨opType, value, percentOf value total⟩
    total }

def share? (b : Breakdown α) (opType : String) : Option (TypeShare α) :=
  b.entries.find? (·.opType == opType)

end Breakdown

end Dataflow
