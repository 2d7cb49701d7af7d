/-
The functions on tensors that the reference operators compute. Sums run from
left to right and start from minus zero, the neutral element of addition.
-/
import Dataflow.Tensor.Basic

namespace Dataflow.Kernel

def dot (xs ws : List Float32) : Float32 :=
  (List.zipWith (· * ·) xs ws).foldl (· + ·) (-0.0)

/-- The row at an index of values that lie in rows of `width`. -/
def row (width : Nat) (data : List Float32) (index : Nat) : List Float32 :=
  (data.drop (index * width)).take width

def rows (width count : Nat) (data : List Float32) : List (List Float32) :=
  (List.range count).map (row width data)

/-- The product of each row of `x` with each row of `w`, with its bias. -/
def affine (m n k : Nat) (x w b : List Float32) : List Float32 :=
  let columns := (rows k n w).zip b
  (rows k m x).flatMap fun xs => columns.map fun (ws, bias) => dot xs ws + bias

/-- A fully connected layer: `x` in rows of `k`, times the transpose of the `[n, k]` weight, plus
the bias of `n` values. The checks come in the order weight, input, bias. -/
def fullyConnected (x w b : Tensor) : Except Failure Tensor :=
  match w.shape.dims with
  | [rowCount, width] =>
    let n := rowCount.toNat
    let k := width.toNat
    if w.data.length ≠ n * k then .error (.weightSize w.shape w.data.length)
    else if ¬ (0 < k ∧ x.data.length % k = 0) then .error (.inputSize x.shape w.shape)
    else if b.data.length ≠ n then .error (.biasSize n b.shape)
    else
      let m := x.data.length / k
      Tensor.ofData ⟨[.ofNat m, rowCount]⟩ (affine m n k x.data w.data b.data)
  | _ => .error (.weightRank w.shape)

/-- The greater of a number and zero, zero for what is no number. -/
def rectify (v : Float32) : Float32 := if 0 < v then v else 0

def relu (x : Tensor) : Tensor := ⟨x.shape, x.data.map rectify⟩

/-- The sums of values at the same place, in the shape of the first tensor. -/
def add (left right : Tensor) : Except Failure Tensor :=
  if left.data.length = right.data.length then
    Tensor.ofData left.shape (List.zipWith (· + ·) left.data right.data)
  else .error (.unequalSizes left.shape right.shape)

end Dataflow.Kernel
