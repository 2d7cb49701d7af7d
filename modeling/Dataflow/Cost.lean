/-
Estimated costs of one run of an operator, and the functions that estimate
them. Amounts are words of 64 bits.
-/
import Dataflow.Tensor.Shape
import Dataflow.Spec.Operator

namespace Dataflow

open Json

structure Cost where
  flops : UInt64 := 0
  bytesMoved : UInt64 := 0
  paramsBytes : UInt64 := 0
  deriving DecidableEq, BEq, Repr

/-- Estimates the cost of an operator from its description and the shapes of its inputs. -/
abbrev CostFunction := OperatorSpec → List Shape → Cost

namespace Cost

structure Draft where
  flops : Option UInt64 := none
  bytesMoved : Option UInt64 := none
  paramsBytes : Option UInt64 := none

def record : Record Draft Cost where
  name := "Cost"
  fields := [
    .slot "flops" true (Shape.readWord "u64") (·.flops) (fun d v => { d with flops := some v }),
    .slot "bytes_moved" true (Shape.readWord "u64") (·.bytesMoved)
      (fun d v => { d with bytesMoved := some v }),
    .slot "params_bytes" true (Shape.readWord "u64") (·.paramsBytes)
      (fun d v => { d with paramsBytes := some v })]
  blank := {}
  build d := do
    return {
      flops := ← requireField "flops" d.flops
      bytesMoved := ← requireField "bytes_moved" d.bytesMoved
      paramsBytes := ← requireField "params_bytes" d.paramsBytes }

def reader : Reader Cost := record.reader

def toJson (c : Cost) : Json :=
  .object [("flops", .ofNat c.flops.toNat), ("bytes_moved", .ofNat c.bytesMoved.toNat),
    ("params_bytes", .ofNat c.paramsBytes.toNat)]

def elementBytes : Nat := 4

/-- A fully connected layer: two operations for each product, the output moved, weight and bias as
parameters. Shapes that do not start with an input and a weight of two dimensions cost nothing. -/
def fullyConnected : CostFunction := fun _ shapes =>
  match shapes with
  | x :: w :: _ =>
    match w.dims with
    | [rowCount, width] =>
      let n := rowCount.toNat
      let k := width.toNat
      if k = 0 then {}
      else
        let m := x.numel / k
        { flops := .ofNat (2 * m * k * n)
          bytesMoved := .ofNat (m * n * elementBytes)
          paramsBytes := .ofNat ((k * n + n) * elementBytes) }
    | _ => {}
  | _ => {}

/-- A pointwise operator: one operation and one value moved for each element of the first input. -/
def pointwise : CostFunction := fun _ shapes =>
  let numel := (shapes.head?.map Shape.numel).getD 0
  { flops := .ofNat numel, bytesMoved := .ofNat (numel * elementBytes) }

end Cost

end Dataflow
