/-
Dense tensors of single precision numbers in row major order. The constructors
here give only tensors whose values are as many as their shape has elements
(`Consistent`).
-/
import Dataflow.Failure

namespace Dataflow

open Json

structure Tensor where
  shape : Shape
  data : List Float32
  deriving BEq

/-- A generator of pseudorandom numbers of `[-1, 1)`: a sequence of them for each seed. -/
structure Generator where
  number : UInt64 → Nat → Float32
  inRange : ∀ seed n, -1 ≤ number seed n ∧ number seed n < 1

namespace Tensor

/-- The values are as many as the shape has elements. -/
def Consistent (t : Tensor) : Prop := t.data.length = t.shape.numel

/-- The tensor of some values, if they are as many as the shape has elements. -/
def ofData (shape : Shape) (data : List Float32) : Except Failure Tensor :=
  if shape.numel = data.length then .ok ⟨shape, data⟩
  else .error (.elementCount shape data.length)

def byteLimit : Nat := 9223372036854775807

/-- The tensor of a shape, whose values are given by their number. -/
def fill (shape : Shape) (values : Nat → List Float32) : Except Failure Tensor :=
  if 4 * shape.numel ≤ byteLimit then .ok ⟨shape, values shape.numel⟩ else .error .tooLarge

def zeros (shape : Shape) : Except Failure Tensor := fill shape fun n => .replicate n 0

/-- The tensor of the numbers that a generator gives to a seed. -/
def random (generator : Generator) (shape : Shape) (seed : UInt64) : Except Failure Tensor :=
  fill shape fun n => (List.range n).map (generator.number seed)

structure Draft where
  shape : Option Shape := none
  data : Option (List Float32) := none

def record : Record Draft Tensor where
  name := "RawTensor"
  fields := [
    .slot "shape" true Shape.reader (·.shape) (fun d v => { d with shape := some v }),
    .slot "data" true (Reader.list Reader.single) (·.data) (fun d v => { d with data := some v })]
  blank := {}
  build d := do
    let shape ← requireField "shape" d.shape
    let data ← requireField "data" d.data
    (ofData shape data).mapError fun e => .refused e.message

def reader : Reader Tensor := record.reader

def toJson (t : Tensor) : Json :=
  .object [("shape", t.shape.toJson), ("data", .list (t.data.map .ofSingle))]

end Tensor

end Dataflow
