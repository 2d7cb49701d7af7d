/-
Arguments of an operator. An argument is written as the bare value, and its
kind is the first that fits in the order of the declaration: a number that is
an integer of 64 bits is an `int`, any other number a `float`, a list of such
integers `ints`, any other list of numbers `floats`.
-/
import Dataflow.Json.Basic
import Dataflow.Json.Reader

namespace Dataflow

open Json

inductive Argument
  | int (n : Int64)
  | float (x : Float32)
  | text (s : String)
  | ints (ns : List Int64)
  | floats (xs : List Float32)
  deriving BEq

namespace Json

mutual

/-- Whether a value of any type is sound and not nested too deeply. -/
def Doc.check (room : Nat) : Doc → Except ReadError Unit
  | .null => .ok ()
  | .bool _ => .ok ()
  | .number n => (numeralValue n).map fun _ => ()
  | .text s => s.map fun _ => ()
  | .list items ending => inBracket room fun inner => do
    checkItems inner items
    ending.asList
  | .object members ending => inBracket room fun inner => do
    checkMembers inner members
    ending.asObject
  | .broken fault => .error fault.asked

def checkItems (room : Nat) : List Doc → Except ReadError Unit
  | [] => .ok ()
  | d :: rest => do
    d.check room
    checkItems room rest

def checkMembers (room : Nat) : List (Except ReadError String × Doc) → Except ReadError Unit
  | [] => .ok ()
  | (key, d) :: rest => do
    discard key
    d.check room
    checkMembers room rest

end

def Doc.number? : Doc → Option Number
  | .number n => (numeralValue n).toOption
  | _ => none

def Number.int64? : Number → Option Int64
  | .natural n => if n < 9223372036854775808 then some (.ofNat n) else none
  | .negative n => some (.ofInt (-n))
  | .real _ => none

end Json

namespace Argument

def ofNumber (v : Number) : Argument :=
  match v.int64? with
  | some n => .int n
  | none => .float v.single

def ofNumbers (vs : List Number) : Argument :=
  match vs.mapM Number.int64? with
  | some ns => .ints ns
  | none => .floats (vs.map Number.single)

/-- The argument of a sound value, `none` when no kind fits. -/
def ofDoc : Doc → Option Argument
  | .number n => (Doc.number n).number?.map ofNumber
  | .text (.ok s) => some (.text s)
  | .list items _ => (items.mapM Doc.number?).map ofNumbers
  | _ => none

def reader : Reader Argument := fun room d => do
  d.check room
  match ofDoc d with
  | some argument => .ok argument
  | none => .error (.noVariant "Argument")

def toJson : Argument → Json
  | .int n => .ofInt n.toInt
  | .float x => .ofSingle x
  | .text s => .text s
  | .ints ns => .list (ns.map fun n => .ofInt n.toInt)
  | .floats xs => .list (xs.map .ofSingle)

end Argument

end Dataflow
