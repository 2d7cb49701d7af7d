/-
Shapes of tensors: the dimensions, the outermost first. A shape of no
dimension holds one element.
-/
import Dataflow.Json.Basic
import Dataflow.Json.Record

namespace Dataflow

open Json

structure Shape where
  dims : List UInt64
  deriving DecidableEq, BEq

namespace Shape

def rank (s : Shape) : Nat := s.dims.length

/-- The number of elements, which may be too large for a word. -/
def numel (s : Shape) : Nat := s.dims.foldr (fun d n => d.toNat * n) 1

/-- The number of elements counted in words, from the outermost dimension on. -/
def numelInWords (s : Shape) : UInt64 := s.dims.foldl (· * ·) 1

/-- No product of leading dimensions is too large for a word, so counting in words does not overflow. -/
def Countable (s : Shape) : Prop := ∀ n ≤ s.rank, numel ⟨s.dims.take n⟩ < UInt64.size

instance (s : Shape) : Decidable s.Countable :=
  inferInstanceAs (Decidable (∀ n ≤ s.rank, numel ⟨s.dims.take n⟩ < UInt64.size))

/-- The dimensions with a cross between them, in brackets. -/
def display (s : Shape) : String :=
  "[" ++ "x".intercalate (s.dims.map fun d => toString d.toNat) ++ "]"

def readWord (type : String) : Reader UInt64 := fun room d =>
  (Reader.integer 0 18446744073709551615 type room d).map fun n => .ofNat n.toNat

def reader : Reader Shape := fun room d => (Reader.list (readWord "usize") room d).map Shape.mk

def toJson (s : Shape) : Json := .list (s.dims.map fun d => .ofNat d.toNat)

end Shape

end Dataflow
