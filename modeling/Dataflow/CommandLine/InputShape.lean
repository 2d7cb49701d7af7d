/-
Input tensors on the command line, as `name=2x3`: a name, and the dimensions
with a cross between them. The name ends at the first equality sign; blanks
around a dimension do not count.
-/
import Dataflow.Numeric.Count
import Dataflow.Tensor.Shape
import Dataflow.Text.Blank
import Dataflow.Text.Split

namespace Dataflow

open Numeric Text

structure InputShape where
  name : String
  shape : Shape
  deriving DecidableEq

/-- Why an argument describes no input tensor. -/
inductive InputFault
  | noSeparator (argument : String)
  | emptyName (argument : String)
  | badDimension (dimension argument : String) (fault : CountFault)
  deriving DecidableEq

namespace InputFault

def chain : InputFault → List String
  | noSeparator argument => ["expected name=DIMxDIM..., got " ++ quoted argument]
  | emptyName argument => ["empty input name in " ++ quoted argument]
  | badDimension dimension argument fault =>
    [s!"invalid dimension {quoted dimension} in {quoted argument}", fault.message]

end InputFault

namespace InputShape

def parseDimension (argument : String) (piece : List Char) : Except InputFault UInt64 :=
  match readCount wordLimit (trim piece) with
  | .ok n => .ok (.ofNat n)
  | .error fault => .error (.badDimension (String.ofList piece) argument fault)

def parse (argument : String) : Except InputFault InputShape :=
  match cut '=' argument.toList with
  | none => .error (.noSeparator argument)
  | some ([], _) => .error (.emptyName argument)
  | some (name, dims) => do
    let dims ← (pieces 'x' dims).mapM (parseDimension argument)
    return ⟨String.ofList name, ⟨dims⟩⟩

end InputShape

end Dataflow
