/-
The fewest decimal digits that read back to the same number. The reals that
round to a number form an interval around it; its ends belong to it when the
mantissa is even. Of the grids of multiples of a power of ten, the coarsest one
with a point inside wins, and on it the point nearest to the number. Where two
points are equally near, the caller says which it is.
-/
import Dataflow.Numeric.Binary

namespace Dataflow.Numeric

/-- A decimal number `digits * 10 ^ exponent`. -/
structure Decimal where
  digits : Nat
  exponent : Int
  deriving DecidableEq, Repr

/-- Which of two equally near points is taken. -/
inductive Tie
  | toEven
  | away
  deriving DecidableEq, Repr

/-- The nearer of two equally near points under a rule, `under` and the one after it. -/
def Tie.pick : Tie → Nat → Nat
  | .toEven, under => under + under % 2
  | .away, under => under + 1

/-- The interval of a number in quarters of its last place: `below` and `above` are the distances
to the ends, `closed` says whether these belong to it. -/
structure Rounding where
  centre : Nat
  below : Nat
  above : Nat
  exponent : Int
  closed : Bool

/-- The interval of reals that round to a positive number of a format. -/
def BinaryFormat.rounding (f : BinaryFormat) (mantissa : Nat) (exponent : Int) : Rounding where
  centre := 4 * mantissa
  -- under a power of two the numbers lie twice as close
  below := if mantissa = Nat.pow 2 f.fractionBits ∧ f.leastExponent < exponent then 1 else 2
  above := 2
  exponent := exponent - 2
  closed := mantissa % 2 == 0

/-- The point inside the interval nearest to its centre, among the multiples of `10 ^ k`. -/
def Rounding.onGrid (r : Rounding) (tie : Tie) (k : Int) : Option Nat :=
  let scale := Nat.pow 2 r.exponent.toNat * Nat.pow 10 (-k).toNat
  let step := Nat.pow 10 k.toNat * Nat.pow 2 (-r.exponent).toNat
  let centre := r.centre * scale
  let low := (r.centre - r.below) * scale
  let high := (r.centre + r.above) * scale
  let under := centre / step
  let lowIn := low < under * step || (r.closed && low == under * step)
  let highIn := (under + 1) * step < high || (r.closed && (under + 1) * step == high)
  if lowIn && highIn then
    let twice := 2 * (centre - under * step)
    if twice < step then some under
    else if step < twice then some (under + 1)
    else some (tie.pick under)
  else if lowIn then some under
  else if highIn then some (under + 1)
  else none

/-- Tries the grids from `10 ^ k` on, each ten times finer than the one before. -/
def Rounding.search (r : Rounding) (tie : Tie) : Nat → Int → Decimal
  | 0, k => ⟨0, k⟩
  | tries + 1, k =>
    match r.onGrid tie k with
    | some digits => ⟨digits, k⟩
    | none => r.search tie tries (k - 1)

def decimalBound (mantissa : Nat) (exponent : Int) : Int :=
  ((Nat.log2 mantissa : Int) + 1 + exponent) * 30103 / 100000 + 1

/-- The shortest decimal that reads back to a positive number of a format. Twenty-four grids are
enough: the bound is at most three powers of ten too high, and seventeen digits tell any two
numbers of either format apart. -/
def BinaryFormat.shortest (f : BinaryFormat) (tie : Tie) (mantissa : Nat) (exponent : Int) :
    Decimal :=
  if mantissa = 0 then ⟨0, 0⟩
  else (f.rounding mantissa exponent).search tie 24 (decimalBound mantissa exponent)

end Dataflow.Numeric
