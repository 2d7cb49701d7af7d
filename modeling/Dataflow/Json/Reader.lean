/-
Readers: functions from a JSON tree to what its value is read as. A reader
meets the faults of the tree in the order of the text and reports the first.

Every reader is told how many brackets may still open inside the value it
reads. A value that is passed over may nest to any depth.
-/
import Dataflow.Json.Doc
import Dataflow.NameMap

namespace Dataflow.Json

open Numeric

/-- A reader, by the brackets that may still open and the tree. -/
abbrev Reader (α : Type) := Nat → Doc → Except ReadError α

/-- The fault of an ending for a reader of the items of a list. -/
def Ending.asList : Ending → Except ReadError Unit
  | .closed => .ok ()
  | .ended => .error .endOfList
  | .endedAfterComma => .error .endOfValue
  | .badSeparator => .error .expectedListEnd
  | .trailingComma => .error .trailingComma
  | .badKey => .error .expectedValue
  | .within skipped => .error skipped

/-- The fault of an ending for a reader of the members of an object. -/
def Ending.asObject : Ending → Except ReadError Unit
  | .closed => .ok ()
  | .ended => .error .endOfObject
  | .endedAfterComma => .error .endOfValue
  | .badSeparator => .error .expectedObjectEnd
  | .trailingComma => .error .trailingComma
  | .badKey => .error .keyNotText
  | .within skipped => .error skipped

/-- The fault of a value of another type than the reader expects. -/
def Doc.mismatch (expected : String) : Doc → ReadError
  | .null => .wrongType .null expected
  | .bool b => .wrongType (.bool b) expected
  | .number n =>
    match numeralValue n with
    | .ok v => .wrongType v.found expected
    | .error e => e
  | .text (.ok s) => .wrongType (.text s) expected
  | .text (.error e) => e
  | .list .. => .wrongType .sequence expected
  | .object .. => .wrongType .mapping expected
  | .broken fault => fault.asked

/-- Passes over a value: only the grammar counts. -/
def Doc.skip : Doc → Except ReadError Unit
  | .list _ .closed | .object _ .closed => .ok ()
  | .list _ ending => .error (ending.skipped false)
  | .object _ ending => .error (ending.skipped true)
  | .broken fault => .error fault.skipped
  | _ => .ok ()

/-- Reads what stands inside a bracket, when one may still open. -/
def inBracket {α : Type} (room : Nat) (read : Nat → Except ReadError α) : Except ReadError α :=
  match room with
  | 0 => .error .tooDeep
  | inner + 1 => read inner

namespace Reader

variable {α : Type}

def text : Reader String
  | _, .text s => s
  | _, d => .error (d.mismatch "a string")

def bool : Reader Bool
  | _, .bool b => .ok b
  | _, d => .error (d.mismatch "a boolean")

/-- An integer from `least` to `greatest`; `type` names the range in messages. -/
def integer (least greatest : Int) (type : String) : Reader Int
  | _, .number n => do
    let inRange (v : Int) : Except ReadError Int :=
      if least ≤ v ∧ v ≤ greatest then .ok v else .error (.wrongInteger v type)
    match ← numeralValue n with
    | .natural v => inRange v
    | .negative v => inRange (-v)
    | .real x => .error (.wrongType (.real x) type)
  | _, d => .error (d.mismatch type)

def single : Reader Float32
  | _, .number n => (numeralValue n).map Number.single
  | _, d => .error (d.mismatch "f32")

def option (read : Reader α) : Reader (Option α)
  | _, .null => .ok none
  | room, d => (read room d).map some

def unit : Reader Unit
  | _, .null => .ok ()
  | _, d => .error (d.mismatch "unit")

/-- The items of a list. -/
def list (read : Reader α) : Reader (List α)
  | room, .list items ending => inBracket room fun inner => do
    let values ← items.mapM (read inner)
    ending.asList
    return values
  | _, d => .error (d.mismatch "a sequence")

/-- Reads members into a map; the last value of a key counts. -/
def readMembers (read : Doc → Except ReadError α) :
    List (Except ReadError String × Doc) → NameMap α → Except ReadError (NameMap α)
  | [], m => .ok m
  | (key, value) :: rest, m => do readMembers read rest (m.insert (← key) (← read value))

def map (read : Reader α) : Reader (NameMap α)
  | room, .object members ending => inBracket room fun inner => do
    let m ← readMembers (read inner) members .empty
    ending.asObject
    return m
  | _, d => .error (d.mismatch "a map")

/-- A fault when something follows the value. -/
def decode (read : Reader α) (text : String) : Except ReadError α := do
  let reading := Reading.ofText text
  let value ← read 127 reading.root
  if reading.leftover then .error .trailingText else .ok value

end Reader

end Dataflow.Json
